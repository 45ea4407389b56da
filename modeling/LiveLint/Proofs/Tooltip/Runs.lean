import LiveLint.Proofs.Timing.Alarm
import LiveLint.Proofs.Tooltip.Turns

/-! # A tooltip on a clock

What a tooltip goes through on a clock are acts at the times of the clock. An alarm rings when
it is due and not later, so none of the alarms that are set is ever overdue, and when time has
passed none is due. -/

namespace LiveLint

namespace HoverRun
open Hover

variable {P : Type}

/-! ## The acts of a run -/

def waitActs (limit : Nat) : Nat → HoverRun P → List (Moment × Act P)
  | 0, _ => []
  | rings + 1, r => match Alarm.due? limit r.hover.alarms with
    | some (label, a) =>
      let r := { r with now := a.due }
      (r.moment, .ring label) :: waitActs limit rings (r.set (r.hover.ring r.moment label)).value
    | none => []

def stepActs (s : Step P) (r : HoverRun P) : List (Moment × Act P) :=
  match s with
  | .move mark pos => [(r.moment, .move mark pos)]
  | .left => [(r.moment, .left)]
  | .advance ms => waitActs (r.now + ms) 3 r
  | .revoke n => [(r.moment, .revoke n)]
  | .dispose hideView => [(r.moment, .dispose hideView)]

/-- The acts of which a run consists. -/
def acts : List (Step P) → HoverRun P → List (Moment × Act P)
  | [], _ => []
  | s :: steps, r => r.stepActs s ++ acts steps (r.step s).value

/-- A run has come to what acts come to, and has told the same. -/
def Does (x : Logged (HoverEvent P) (HoverRun P)) (h : Hover P) (acts : List (Moment × Act P)) :
    Prop := x.value.hover = (h.perform acts).value ∧ x.events = (h.perform acts).events

theorem mem_alarms {h : Hover P} {label : HoverAlarm} {a : Alarm} :
    (label, some a) ∈ h.alarms ↔ h.alarm? label = some a := by
  cases label <;> simp [alarms, alarm?, eq_comm]

theorem act_ring {h : Hover P} {label : HoverAlarm} {a : Alarm}
    (set : h.alarm? label = some a) (t : Moment) : h.act t (.ring label) = h.ring t label := by
  rw [Hover.act, if_pos (by rw [set]; rfl)]

theorem runTo_does (limit rings : Nat) (r : HoverRun P) :
    Does (runTo limit rings r) r.hover (waitActs limit rings r) := by
  induction rings generalizing r with
  | zero => exact ⟨rfl, rfl⟩
  | succ rings ih =>
    unfold runTo waitActs
    cases due : Alarm.due? limit r.hover.alarms with
    | none => exact ⟨rfl, rfl⟩
    | some rung =>
      obtain ⟨label, a⟩ := rung
      have set := mem_alarms.mp (Alarm.mem_of_due? due)
      let after : HoverRun P := { r with now := a.due }
      obtain ⟨value, events⟩ := ih (after.set (after.hover.ring after.moment label)).value
      unfold Does
      rw [perform_cons, act_ring set]
      exact ⟨value, congrArg (_ ++ ·) events⟩

theorem step_does (s : Step P) (r : HoverRun P) : Does (r.step s) r.hover (r.stepActs s) := by
  cases s with
  | advance ms => exact runTo_does _ _ r
  | move _ _ | left | revoke _ | dispose _ => exact ⟨rfl, (List.append_nil _).symm⟩

/-- **A run is the sequence of its acts**, with the same tooltip and the same events. -/
theorem run_does (steps : List (Step P)) (r : HoverRun P) :
    Does (r.run steps) r.hover (r.acts steps) := by
  induction steps generalizing r with
  | nil => exact ⟨rfl, rfl⟩
  | cons s steps ih =>
    obtain ⟨value, events⟩ := step_does s r
    obtain ⟨value', events'⟩ := ih (r.step s).value
    unfold Does
    rw [acts, perform_append, Logged.bind_value, Logged.bind_events, ← value, ← events]
    exact ⟨value', congrArg (_ ++ ·) events'⟩

/-! ## Time -/

/-- No alarm that is set is overdue, and what fades is gone after the delay for that. -/
structure OnTime (delay now : Nat) (h : Hover P) : Prop where
  same : h.fadeDelay = delay
  rest : ∀ a, h.restAlarm = some a → now ≤ a.due
  fade : ∀ a, h.fadeAlarm = some a → now ≤ a.due ∧ a.due ≤ now + delay

theorem OnTime.turn {delay now : Nat} {h : Hover P} (o : OnTime delay now h)
    {x : Logged (HoverEvent P) (Hover P)} (turn : Turn now h x) : OnTime delay now x.value := by
  obtain ⟨rfl, rest, fade⟩ := o
  cases turn with
  | point _ | follow _ | pass _ => exact ⟨rfl, rest, fade⟩
  | @track marks n w a later idle =>
    refine ⟨rfl, fun b set => ?_, fade⟩
    obtain rfl : a = b := Option.some.inj set
    exact later
  | giveUp _ _ => exact ⟨rfl, nofun, fade⟩
  | reveal _ _ _ | hide _ _ => exact ⟨rfl, nofun, nofun⟩
  | leave w turn _ =>
    refine ⟨rfl, rest, fun b set => ?_⟩
    obtain rfl := Option.some.inj set
    exact ⟨Nat.le_add_right _ _, Nat.le_refl _⟩
  | faded _ => exact ⟨rfl, rest, nofun⟩

theorem OnTime.turns {delay now : Nat} {h : Hover P} (o : OnTime delay now h)
    {x : Logged (HoverEvent P) (Hover P)} (turns : Turns now h x) : OnTime delay now x.value := by
  induction turns with
  | none h => exact o
  | cons first _ ih => exact ih (o.turn first)

/-- How many alarms are set. -/
def alarmsSet (h : Hover P) : Nat := h.restAlarm.isSome.toNat + h.fadeAlarm.isSome.toNat

theorem alarmsSet_le (h : Hover P) : alarmsSet h ≤ 2 :=
  Nat.add_le_add (Bool.toNat_le _) (Bool.toNat_le _)

theorem ring_alarmsSet {h : Hover P} (s : Settled h) (t : Moment) {label : HoverAlarm}
    (set : (h.alarm? label).isSome = true) :
    alarmsSet (h.ring t label).value < alarmsSet h := by
  cases label with
  | rest =>
    have tracking := s.rest.mp set
    have dark : h.phase ≠ .showing := by simp [tracking]
    obtain ⟨n, m, mark, found, -⟩ := s.exists_mark (by simp [tracking])
    have set : h.restAlarm.isSome = true := set
    rw [ring_rest_eq s tracking, reveal_eq (h := { h with restAlarm := none }) t mark found dark]
    simp only [alarmsSet, set, Option.isSome_none, Bool.toNat_false, Bool.toNat_true]
    omega
  | fade =>
    have set : h.fadeAlarm.isSome = true := set
    have value : (h.ring t .fade).value = { h with fadeAlarm := none, fading := none } := rfl
    simp [value, alarmsSet, set]

/-- Alarms ring in time: when time has passed, none that is set is due yet. -/
theorem runTo_onTime {delay limit rings : Nat} {r : HoverRun P} (s : Settled r.hover)
    (o : OnTime delay r.now r.hover) (later : r.now ≤ limit) (enough : alarmsSet r.hover < rings) :
    let r' := (runTo limit rings r).value
    r'.now = limit ∧ OnTime delay limit r'.hover ∧
      ∀ a, r'.hover.fadeAlarm = some a → limit < a.due := by
  induction rings generalizing r with
  | zero => exact absurd enough (Nat.not_lt_zero _)
  | succ rings ih =>
    unfold runTo
    cases due : Alarm.due? limit r.hover.alarms with
    | none =>
      have undue : ∀ label a, r.hover.alarm? label = some a → limit < a.due := fun label a set =>
        Alarm.lt_of_due?_eq_none due (mem_alarms.mpr set)
      refine ⟨rfl, ⟨o.same, fun a set => Nat.le_of_lt (undue .rest a set), fun a set => ?_⟩,
        undue .fade⟩
      obtain ⟨-, soon⟩ := o.fade a set
      exact ⟨Nat.le_of_lt (undue .fade a set), Nat.le_trans soon (Nat.add_le_add_right later _)⟩
    | some rung =>
      obtain ⟨label, a⟩ := rung
      have set := mem_alarms.mp (Alarm.mem_of_due? due)
      have isSet : (r.hover.alarm? label).isSome = true := by rw [set]; rfl
      have first : ∀ label' b, r.hover.alarm? label' = some b → a.due ≤ b.due := fun _ _ set' =>
        Alarm.due_le_of_due? due (mem_alarms.mpr set')
      have since : r.now ≤ a.due := by
        cases label with
        | rest => exact o.rest a set
        | fade => exact (o.fade a set).1
      have still : OnTime delay a.due r.hover := ⟨o.same, first .rest, fun b set' =>
        ⟨first .fade b set', Nat.le_trans (o.fade b set').2 (Nat.add_le_add_right since _)⟩⟩
      let r' : HoverRun P := { r with now := a.due }
      have turn := ring_turn s r'.moment label isSet
      have fewer := ring_alarmsSet s r'.moment isSet
      exact ih (r := { r' with hover := (r.hover.ring r'.moment label).value }) (s.turn turn)
        (still.turn turn) (Alarm.le_of_due? due)
        (Nat.lt_of_lt_of_le fewer (Nat.le_of_lt_succ enough))

/-- The view is told of a step. -/
def Step.viewed : Step P → Prop
  | .dispose hideView => hideView = true
  | _ => True

theorem step_onTime {delay : Nat} {r : HoverRun P} (s : Settled r.hover)
    (o : OnTime delay r.now r.hover) {a : Step P} (viewed : a.viewed) :
    OnTime delay (r.step a).value.now (r.step a).value.hover := by
  cases a with
  | advance ms =>
    obtain ⟨now, later, -⟩ := runTo_onTime s o (Nat.le_add_right r.now ms)
      (Nat.lt_succ_of_le (alarmsSet_le r.hover))
    unfold step
    rwa [now]
  | move mark pos => exact o.turns (move_turns s r.moment mark pos)
  | left => exact o.turns (move_turns s r.moment none r.hover.pos)
  | revoke n => exact o.turns (revoke_turns s r.moment n)
  | dispose hideView =>
    have told : hideView = true := viewed
    subst told
    exact o.turn (dispose_turn s r.moment)

theorem viewed_waitActs (limit rings : Nat) (r : HoverRun P) :
    ∀ a ∈ waitActs limit rings r, a.2.viewed := by
  induction rings generalizing r with
  | zero => exact nofun
  | succ rings ih =>
    unfold waitActs
    split
    · intro a ha
      rcases List.mem_cons.mp ha with rfl | ha
      · trivial
      · exact ih _ a ha
    · exact nofun

/-- The view is told of all acts of a step if it is told of the step. -/
theorem viewed_stepActs {a : Step P} (viewed : a.viewed) (r : HoverRun P) :
    ∀ b ∈ r.stepActs a, b.2.viewed := by
  cases a with
  | advance ms => exact viewed_waitActs _ _ r
  | move _ _ | left | revoke _ =>
    intro b hb
    obtain rfl := List.mem_singleton.mp hb
    trivial
  | dispose hideView =>
    intro b hb
    obtain rfl := List.mem_singleton.mp hb
    exact viewed

end HoverRun

/-! ## The tooltip and its mark -/

namespace Hover

variable {P : Type}

/-- A tooltip over marks, some of which may be revoked, before anything has happened. -/
def start (restDelay fadeDelay : Nat) (table : List (Mark Watcher)) (pos : P) : Hover P :=
  { restDelay, fadeDelay, marks := MarkTable.bare table, pos }

theorem start_settled (restDelay fadeDelay : Nat) (table : List (Mark Watcher)) (pos : P) :
    Settled (start restDelay fadeDelay table pos) := by
  have unheard : Watches (MarkTable.bare table) none := by
    refine ⟨nofun, fun n m hm => ?_⟩
    rw [MarkTable.bare, List.getElem?_map] at hm
    obtain ⟨m', -, rfl⟩ := Option.map_eq_some_iff.mp hm
    rfl
  exact ⟨iff_of_true rfl rfl, unheard, by simp [start], by simp [start], by simp [start]⟩

/-- **A tooltip knows its mark.** Every run on a clock is a sequence of acts, and after all acts:
the tooltip is idle exactly if it has no mark; otherwise its mark is alive, and of the marks
that are alive it listens to this one, once, and to no other; the one alarm is set exactly while
it tracks a mark, the other exactly while it remembers a mark that fades, which it does not
while it shows one. So when the pointer has rested, there always is a living mark to show. -/
theorem knows_its_mark (restDelay fadeDelay : Nat) (table : List (Mark Watcher)) (pos : P) :
    let first := start restDelay fadeDelay table pos
    (∀ now steps, let r : HoverRun P := { now, hover := first }
      HoverRun.Does (r.run steps) first (r.acts steps)) ∧
    ∀ acts, let h := (first.perform acts).value
      (h.phase = .idle ↔ h.mark = none) ∧
      (h.phase ≠ .idle → ∃ n m, h.mark = some n ∧ h.marks[n]? = some m ∧ m.alive = true ∧
        m.handle.listeners.count .hover = 1) ∧
      (∀ n m, h.marks[n]? = some m → m.alive = true → h.mark ≠ some n →
        .hover ∉ m.handle.listeners) ∧
      (h.restAlarm.isSome = true ↔ h.phase = .tracking) ∧
      (h.fadeAlarm.isSome = true ↔ h.fading.isSome = true) ∧
      (h.phase = .showing → h.fadeAlarm = none) ∧
      ∀ t, h.restAlarm.isSome = true →
        h.act t (.ring .rest) = { h with restAlarm := none }.reveal t ∧
        (h.act t (.ring .rest)).value.phase = .showing := by
  intro first
  refine ⟨fun now steps => HoverRun.run_does steps _, fun acts => ?_⟩
  intro h
  have s : Settled h := (start_settled restDelay fadeDelay table pos).perform acts
  refine ⟨s.idle, fun busy => ?_, fun n m found _ other => ?_, s.rest, s.fade, fun showing => ?_,
    fun t set => ?_⟩
  · obtain ⟨n, m, mark, found, alive⟩ := s.exists_mark busy
    refine ⟨n, m, mark, found, alive, ?_⟩
    rw [s.watches.listeners n m found, if_pos mark]
    rfl
  · rw [s.watches.listeners n m found, if_neg other]
    exact List.not_mem_nil
  · rw [← Option.not_isSome_iff_eq_none, s.fade, s.showing showing]
    nofun
  · have tracking := s.rest.mp set
    have dark : h.phase ≠ .showing := by simp [tracking]
    obtain ⟨n, m, mark, found, -⟩ := s.exists_mark (by simp [tracking])
    have rung : h.act t (.ring .rest) = { h with restAlarm := none }.reveal t :=
      (if_pos set).trans (ring_rest_eq s tracking t)
    refine ⟨rung, ?_⟩
    rw [rung, reveal_eq (h := { h with restAlarm := none }) t mark found dark]

/-- The tooltip of a mark fades while the pointer is on another one. The mark that fades is
revoked, then the tooltip of the other is shown. -/
theorem knows_its_mark_while_fading :
    let finding : Finding := ⟨⟨⟨1, 1⟩, ⟨1, 2⟩⟩, .error, "bad", "", "", ""⟩
    let mark : Mark Watcher := Mark.ofFinding none finding
    let acts : List (Moment × Act Unit) :=
      [(⟨0, 0⟩, .move (some 0) ()), (⟨180, 0⟩, .ring .rest), (⟨200, 0⟩, .move (some 1) ()),
        (⟨210, 0⟩, .revoke 0)]
    let first := start 180 150 [mark, mark] ()
    let h := (first.perform acts).value
    h.phase = .tracking ∧ h.fading = some 0 ∧
      (∃ n m, h.mark = some n ∧ h.marks[n]? = some m ∧ m.alive = true ∧
        m.handle.listeners.count .hover = 1) ∧
      (h.act ⟨380, 0⟩ (.ring .rest)).value.phase = .showing := by
  intro finding mark acts first h
  have tracking : (first.perform acts).value.phase = .tracking := by decide +kernel
  have fading : (first.perform acts).value.fading = some 0 := by decide +kernel
  have set : (first.perform acts).value.restAlarm.isSome = true := by decide +kernel
  have known := (knows_its_mark 180 150 [mark, mark] ()).2 acts
  subst h
  generalize (first.perform acts).value = h at tracking fading set known ⊢
  obtain ⟨-, watched, -, -, -, -, rung⟩ := known
  exact ⟨tracking, fading, watched (by simp [tracking]), (rung ⟨380, 0⟩ set).2⟩

end Hover
end LiveLint
