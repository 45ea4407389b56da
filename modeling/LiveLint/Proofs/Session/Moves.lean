import LiveLint.Session.Run

/-! # Sessions, one move at a time

Most steps of a session are single moves. A drain takes one result after the other, and time
that passes is cut into the alarms that ring in it. Every run is the sequence of its moves, so
what each move keeps holds in every state that a run comes to. -/

namespace LiveLint.Session

variable {P : Type}

/-- Whether a step is a single move. -/
def Step.single : Step P → Bool
  | .advance _ | .drain => false
  | _ => true

inductive Move (P : Type) where
  | step (a : Step P) (single : a.single = true)
  /-- The oldest result is taken from the queue and delivered. -/
  | take
  /-- The queue is found empty. -/
  | settle
  /-- The pump rings and is set again. -/
  | pump (a : Alarm)
  /-- The debounce rings. -/
  | quiet (a : Alarm)
  /-- An alarm of the tooltip rings. -/
  | tooltip (label : HoverAlarm) (a : Alarm)
  | wait (limit : Nat)

/-- Take and deliver the oldest result. -/
def take (s : Session P) : Logged (Event P) (Session P) :=
  match s.requests.take? with
  | none => pure s
  | some (delivery, requests) => deliver delivery { s with requests := requests }

def move (s : Session P) : Move P → Logged (Event P) (Session P)
  | .step a _ => s.step a
  | .take => s.take
  | .settle => pure { s with requests := s.requests.settle }
  | .pump a =>
    let s := { s with now := a.due }
    pure { s with requests := s.requests.rearm s.moment }
  | .quiet a => s.ring .debounce a
  | .tooltip label a => s.ring (.hover label) a
  | .wait limit => pure { s with now := limit }

def perform (moves : List (Move P)) (s : Session P) : Logged (Event P) (Session P) :=
  moves.foldlM move s

@[simp] theorem perform_nil (s : Session P) : s.perform [] = pure s := rfl

theorem perform_cons (m : Move P) (moves : List (Move P)) (s : Session P) :
    s.perform (m :: moves) = s.move m >>= perform moves := rfl

theorem perform_one (m : Move P) (s : Session P) : s.perform [m] = s.move m := bind_pure (s.move m)

theorem perform_append (moves more : List (Move P)) (s : Session P) :
    s.perform (moves ++ more) = s.perform moves >>= perform more := List.foldlM_append

/-! ## The moves of a run -/

/-- A result is taken, and with it nothing is added to the queue. -/
def takeMoves : Nat → Session P → List (Move P)
  | 0, _ => []
  | count + 1, s => match s.requests.take? with
    | none => []
    | some _ => .take :: takeMoves count s.take.value

def drainMoves (s : Session P) : List (Move P) :=
  takeMoves s.requests.queue.length s ++ [.settle]

def ringMoves (timer : Timer) (a : Alarm) (s : Session P) : List (Move P) :=
  match timer with
  | .debounce => [.quiet a]
  | .pump => .pump a :: drainMoves (s.move (.pump a)).value
  | .hover label => [.tooltip label a]

def waitMoves (limit : Nat) : Nat → Session P → List (Move P)
  | 0, _ => [.wait limit]
  | rings + 1, s => match Alarm.due? limit s.timers with
    | some (timer, a) => ringMoves timer a s ++ waitMoves limit rings (s.ring timer a).value
    | none => [.wait limit]

def stepMoves (s : Session P) (a : Step P) : List (Move P) :=
  if single : a.single then [.step a single]
  else match a with
    | .advance ms => waitMoves (s.now + ms) (ms + 4) s
    | _ => s.drainMoves

/-- The moves of which a run consists. -/
def moves : List (Step P) → Session P → List (Move P)
  | [], _ => []
  | a :: steps, s => s.stepMoves a ++ moves steps (s.step a).value

theorem takeAll_eq_perform (count : Nat) (s : Session P) :
    takeAll count s = s.perform (takeMoves count s) := by
  induction count generalizing s with
  | zero => rfl
  | succ count ih =>
    simp only [takeAll, takeMoves]
    cases h : s.requests.take? with
    | none => rfl
    | some taken =>
      have first : s.take = deliver taken.1 { s with requests := taken.2 } := by simp only [take, h]
      dsimp only
      rw [perform_cons, ← first]
      exact Logged.bind_congr (ih _)

theorem drain_eq_perform (s : Session P) : s.drain = s.perform s.drainMoves := by
  simp only [drain, drainMoves, perform_append, takeAll_eq_perform]
  rfl

theorem ring_eq_perform (timer : Timer) (a : Alarm) (s : Session P) :
    s.ring timer a = s.perform (ringMoves timer a s) := by
  cases timer with
  | debounce => exact (perform_one (.quiet a) s).symm
  | pump => exact drain_eq_perform (s.move (.pump a)).value
  | hover label => exact (perform_one (.tooltip label a) s).symm

theorem runTo_eq_perform (limit rings : Nat) (s : Session P) :
    runTo limit rings s = s.perform (waitMoves limit rings s) := by
  induction rings generalizing s with
  | zero => rfl
  | succ rings ih =>
    simp only [runTo, waitMoves]
    cases Alarm.due? limit s.timers with
    | none => rfl
    | some rung =>
      dsimp only
      rw [perform_append, ← ring_eq_perform]
      exact Logged.bind_congr (ih _)

theorem step_eq_perform (a : Step P) (s : Session P) : s.step a = s.perform (s.stepMoves a) := by
  unfold stepMoves
  split
  next single => exact (perform_one (.step a single) s).symm
  next several =>
    cases a with
    | advance ms => exact runTo_eq_perform _ _ s
    | drain => exact drain_eq_perform s
    | _ => exact absurd rfl several

/-- **A run is the sequence of its moves**, with the same states and the same events. -/
theorem run_eq_perform (steps : List (Step P)) (s : Session P) :
    s.run steps = s.perform (s.moves steps) := by
  induction steps generalizing s with
  | nil => rfl
  | cons a steps ih =>
    rw [moves, perform_append, ← step_eq_perform]
    exact Logged.bind_congr (ih _)

theorem run_append (steps more : List (Step P)) (s : Session P) :
    s.run (steps ++ more) = s.run steps >>= run more := List.foldlM_append

/-! ## Invariants -/

/-- What single moves keep, of the events so far and the state, is kept by every sequence of
moves. -/
theorem perform_invariant {I : List (Event P) → Session P → Prop}
    (kept : ∀ log s m, I log s → I (log ++ (s.move m).events) (s.move m).value)
    (moves : List (Move P)) (log : List (Event P)) {s : Session P} (h : I log s) :
    I (log ++ (s.perform moves).events) (s.perform moves).value := by
  induction moves generalizing log s with
  | nil => simpa using h
  | cons m moves ih =>
    rw [perform_cons, Logged.bind_events, Logged.bind_value, ← List.append_assoc]
    exact ih _ (kept log s m h)

/-- What single moves keep is kept by every run. -/
theorem run_invariant {I : List (Event P) → Session P → Prop}
    (kept : ∀ log s m, I log s → I (log ++ (s.move m).events) (s.move m).value)
    (steps : List (Step P)) (log : List (Event P)) {s : Session P} (h : I log s) :
    I (log ++ (s.run steps).events) (s.run steps).value := by
  rw [run_eq_perform]
  exact perform_invariant kept _ log h

/-! ## The last event of a kind -/

/-- What the last event of a kind tells. -/
def last? {α : Type} (kind : Event P → Option α) (log : List (Event P)) : Option α :=
  (log.filterMap kind).getLast?

section

variable {α : Type} {kind : Event P → Option α} {log events : List (Event P)}

theorem last?_append (h : ∀ e ∈ events, kind e = none) :
    last? kind (log ++ events) = last? kind log := by
  have none : events.filterMap kind = [] := List.filterMap_eq_nil_iff.mpr h
  rw [last?, List.filterMap_append, none, List.append_nil, last?]

theorem last?_concat {e : Event P} {a : α} (h : kind e = some a) :
    last? kind (log ++ [e]) = some a := by
  simp [last?, h]

end

end LiveLint.Session
