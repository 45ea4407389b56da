import LiveLint.Proofs.Session.Moves
import LiveLint.Proofs.Timing.Alarm

/-! # Moves of the alarms

Time that passes is cut into the alarms that ring in it, and an alarm rings only if it is set.
What is kept by moves under that condition, and by steps under some condition on them, is kept
by runs. -/

namespace LiveLint

/-- Every action fits the state in which it comes; `next` gives the state after it. -/
def Each {σ α : Type} (next : σ → α → σ) (fit : σ → α → Prop) : List α → σ → Prop
  | [], _ => True
  | a :: rest, s => fit s a ∧ Each next fit rest (next s a)

theorem each_append {σ α : Type} {next : σ → α → σ} {fit : σ → α → Prop} {actions more : List α}
    {s : σ} : Each next fit (actions ++ more) s ↔
      Each next fit actions s ∧ Each next fit more (actions.foldl next s) := by
  induction actions generalizing s with
  | nil => simp [Each]
  | cons a actions ih => rw [List.cons_append, Each, Each, ih, List.foldl_cons, and_assoc]

theorem Each.and {σ α : Type} {next : σ → α → σ} {fit fit' : σ → α → Prop} {actions : List α}
    {s : σ} (h : Each next fit actions s) (h' : Each next fit' actions s) :
    Each next (fun s a => fit s a ∧ fit' s a) actions s := by
  induction actions generalizing s with
  | nil => trivial
  | cons a actions ih => exact ⟨⟨h.1, h'.1⟩, ih h.2 h'.2⟩

namespace Session

variable {P : Type}

def afterMove (s : Session P) (m : Move P) : Session P := (s.move m).value

def afterStep (s : Session P) (a : Step P) : Session P := (s.step a).value

theorem perform_value (moves : List (Move P)) (s : Session P) :
    (s.perform moves).value = moves.foldl afterMove s := by
  induction moves generalizing s with
  | nil => rfl
  | cons m moves ih => exact ih (s.move m).value

theorem run_value (steps : List (Step P)) (s : Session P) :
    (s.run steps).value = steps.foldl afterStep s := by
  induction steps generalizing s with
  | nil => rfl
  | cons a steps ih => exact ih (s.step a).value

/-- A step comes when `p` holds of it, and an alarm rings only if it is set. -/
def Fits (p : Session P → Step P → Prop) (s : Session P) : Move P → Prop
  | .step a _ => p s a
  | .pump a => (.pump, some a) ∈ s.timers
  | .quiet a => (.debounce, some a) ∈ s.timers
  | .tooltip label a => (.hover label, some a) ∈ s.timers
  | .take | .settle | .wait _ => True

section

variable {p : Session P → Step P → Prop}

theorem each_takeMoves (count : Nat) (s : Session P) :
    Each afterMove (Fits p) (takeMoves count s) s := by
  induction count generalizing s with
  | zero => trivial
  | succ count ih =>
    unfold takeMoves
    cases s.requests.take? with
    | none => trivial
    | some taken => exact ⟨trivial, ih s.take.value⟩

theorem each_drainMoves (s : Session P) : Each afterMove (Fits p) s.drainMoves s :=
  each_append.mpr ⟨each_takeMoves _ s, trivial, trivial⟩

theorem each_ringMoves {timer : Timer} {a : Alarm} {s : Session P}
    (set : (timer, some a) ∈ s.timers) : Each afterMove (Fits p) (ringMoves timer a s) s := by
  cases timer with
  | debounce | hover label => exact ⟨set, trivial⟩
  | pump => exact ⟨set, each_drainMoves _⟩

theorem each_waitMoves (limit rings : Nat) (s : Session P) :
    Each afterMove (Fits p) (waitMoves limit rings s) s := by
  induction rings generalizing s with
  | zero => exact ⟨trivial, trivial⟩
  | succ rings ih =>
    unfold waitMoves
    cases due : Alarm.due? limit s.timers with
    | none => exact ⟨trivial, trivial⟩
    | some rung =>
      obtain ⟨timer, a⟩ := rung
      refine each_append.mpr ⟨each_ringMoves (Alarm.mem_of_due? due), ?_⟩
      rw [← perform_value, ← ring_eq_perform]
      exact ih _

theorem each_stepMoves {a : Step P} {s : Session P} (h : p s a) :
    Each afterMove (Fits p) (s.stepMoves a) s := by
  unfold stepMoves
  split
  · exact ⟨h, trivial⟩
  next several =>
    cases a with
    | advance ms => exact each_waitMoves _ _ s
    | drain => exact each_drainMoves s
    | _ => exact absurd rfl several

/-- In a run of steps that come when `p` holds of them, alarms ring only if they are set. -/
theorem each_moves {steps : List (Step P)} {s : Session P} (h : Each afterStep p steps s) :
    Each afterMove (Fits p) (s.moves steps) s := by
  induction steps generalizing s with
  | nil => trivial
  | cons a steps ih =>
    refine each_append.mpr ⟨each_stepMoves h.1, ?_⟩
    rw [← perform_value, ← step_eq_perform]
    exact ih h.2

end

/-! ## Invariants -/

section

variable {p : Session P → Step P → Prop} {I : List (Event P) → Session P → Prop}
  (kept : ∀ log s m, Fits p s m → I log s → I (log ++ (s.move m).events) (s.move m).value)

include kept

theorem perform_invariant_of {moves : List (Move P)} {log : List (Event P)} {s : Session P}
    (fits : Each afterMove (Fits p) moves s) (h : I log s) :
    I (log ++ (s.perform moves).events) (s.perform moves).value := by
  induction moves generalizing log s with
  | nil => simpa using h
  | cons m moves ih =>
    rw [perform_cons, Logged.bind_events, Logged.bind_value, ← List.append_assoc]
    exact ih fits.2 (kept log s m fits.1 h)

/-- What moves keep when they fit is kept by a run of steps that come when `p` holds of
them. -/
theorem run_invariant_of {steps : List (Step P)} {s : Session P} (fits : Each afterStep p steps s)
    (log : List (Event P)) (h : I log s) :
    I (log ++ (s.run steps).events) (s.run steps).value := by
  rw [run_eq_perform]
  exact perform_invariant_of kept (each_moves fits) h

end

end Session
end LiveLint
