import LiveLint.Proofs.Tooltip.Outline
import LiveLint.Proofs.Tooltip.Runs

/-! # A tooltip follows its outline

What a step of a run makes of the outline of a tooltip, and what the view is told to show and to
fade, is read off the outline before the step. -/

namespace LiveLint

variable {P : Type}

/-- The tooltip comes into view, or begins to go. -/
def HoverEvent.isCue : HoverEvent P → Bool
  | .show _ _ _ | .fade _ => true
  | .move _ | .hide _ | .phase _ => false

/-- The events that tell the view to show and to fade. -/
def cues (events : List (HoverEvent P)) : List (HoverEvent P) := events.filter (·.isCue)

@[simp] theorem cues_append (events more : List (HoverEvent P)) :
    cues (events ++ more) = cues events ++ cues more := List.filter_append ..

theorem mem_cues {events : List (HoverEvent P)} {e : HoverEvent P} (cue : e.isCue = true) :
    e ∈ cues events ↔ e ∈ events := List.mem_filter.trans (and_iff_left cue)

namespace Hover

def outline (h : Hover P) : Outline P :=
  { restDelay := h.restDelay, fadeDelay := h.fadeDelay, phase := h.phase, mark := h.mark
    fading := h.fading, pos := h.pos, restDue := h.restAlarm.map (·.due)
    fadeDue := h.fadeAlarm.map (·.due) }

/-- The view is told to show a mark. -/
def revealed (now : Nat) (mark : Option Nat) (h : Hover P) : List (HoverEvent P) :=
  ((mark.bind ((h.marks.map (·.markup))[·]?)).map fun markup => .show markup h.pos now).toList

/-- What the view is told to show and to fade when the pointer moves. -/
def cuesOfMove (now : Nat) (mark : Option Nat) (h : Hover P) : List (HoverEvent P) :=
  if mark.isSome ∧ mark = h.fading then h.revealed now mark
  else if h.phase = .showing ∧ mark ≠ h.mark then [.fade now]
  else []

/-- What the view is told to show and to fade while time passes. -/
def cuesOfWait (limit : Nat) (h : Hover P) : List (HoverEvent P) :=
  match h.restAlarm with
  | some a => if a.due ≤ limit then h.revealed a.due h.mark else []
  | none => []

/-- The mark of a tooltip does not fade. -/
def Apart (h : Hover P) : Prop := h.mark.isSome = true → h.fading ≠ h.mark

variable {h : Hover P}

theorem Settled.outline_sound (s : Settled h) (apart : h.Apart) : h.outline.Sound where
  idle := s.idle
  rest := by simpa [outline] using s.rest
  fade := by simpa [outline] using s.fade
  showing := s.showing
  apart := apart

@[simp] theorem cues_setPhase (p : HoverPhase) : cues (h.setPhase p).events = [] := by
  unfold setPhase
  split <;> rfl

theorem revealed_eq {n : Nat} {m : Mark Watcher} (found : h.marks[n]? = some m) (now : Nat) :
    h.revealed now (some n) = [.show m.markup h.pos now] := by
  simp [revealed, found]

/-- Who listens to the marks makes no difference to what is shown. -/
theorem revealed_congr {g : Hover P} (markup : g.marks.map (·.markup) = h.marks.map (·.markup))
    (pos : g.pos = h.pos) (now : Nat) (mark : Option Nat) :
    g.revealed now mark = h.revealed now mark := by
  rw [revealed, revealed, markup, pos]

theorem mem_revealed {now : Nat} {mark : Option Nat} {e : HoverEvent P} :
    e ∈ h.revealed now mark ↔ ∃ n markup, mark = some n ∧
      (h.marks.map (·.markup))[n]? = some markup ∧ e = .show markup h.pos now := by
  rw [revealed, Option.mem_toList, Option.map_eq_some_iff]
  constructor
  · rintro ⟨markup, found, rfl⟩
    obtain ⟨n, shown, found⟩ := Option.bind_eq_some_iff.mp found
    exact ⟨n, markup, shown, found, rfl⟩
  · rintro ⟨n, markup, rfl, found, rfl⟩
    exact ⟨markup, found, rfl⟩

theorem length_revealed (now : Nat) (mark : Option Nat) (h : Hover P) :
    (h.revealed now mark).length ≤ 1 := by
  rw [revealed, Option.length_toList]
  split <;> decide

theorem length_cuesOfMove (now : Nat) (mark : Option Nat) (h : Hover P) :
    (h.cuesOfMove now mark).length ≤ 1 := by
  unfold cuesOfMove
  split
  · exact length_revealed now mark h
  · split <;> simp

theorem length_cuesOfWait (limit : Nat) (h : Hover P) : (h.cuesOfWait limit).length ≤ 1 := by
  unfold cuesOfWait
  split
  next a _ =>
    split
    · exact length_revealed a.due h.mark h
    · simp
  next => simp

/-- A tooltip is shown because the pointer returns to the mark that fades, and begins to fade
because the pointer leaves the mark that is shown. -/
theorem mem_cuesOfMove (s : h.outline.Sound) {now : Nat} {mark : Option Nat} {e : HoverEvent P} :
    e ∈ h.cuesOfMove now mark ↔
      (∃ n markup, mark = some n ∧ h.fading = some n ∧
        (h.marks.map (·.markup))[n]? = some markup ∧ e = .show markup h.pos now) ∨
      ∃ n, h.outline.Shows n ∧ mark ≠ some n ∧ e = .fade now := by
  unfold cuesOfMove
  by_cases back : mark.isSome ∧ mark = h.fading
  · obtain ⟨n, rfl⟩ := Option.isSome_iff_exists.mp back.1
    have fading : h.fading = some n := back.2.symm
    have dark : ∀ k, ¬ h.outline.Shows k := fun k shown => by
      have unfaded : h.fading = none := s.showing shown.1
      simp [fading] at unfaded
    simp [fading, mem_revealed, dark]
  · have other : ∀ n, mark = some n → h.fading ≠ some n := by
      rintro n rfl fading
      exact back ⟨rfl, fading.symm⟩
    rw [if_neg back]
    constructor
    · intro he
      split at he
      next leaves =>
        have busy : h.outline.mark ≠ none := mt s.idle.mpr (by simp [outline, leaves.1])
        obtain ⟨n, mine⟩ := Option.ne_none_iff_exists'.mp busy
        have mine : h.mark = some n := mine
        exact .inr ⟨n, ⟨leaves.1, mine⟩, mine ▸ leaves.2, List.mem_singleton.mp he⟩
      next => cases he
    · rintro (⟨n, markup, on, fading, -⟩ | ⟨n, ⟨shown, mine⟩, elsewhere, rfl⟩)
      · exact absurd fading (other n on)
      · have mine : h.mark = some n := mine
        rw [if_pos ⟨shown, mine ▸ elsewhere⟩]
        exact List.mem_singleton_self _

/-- A tooltip is shown because the pointer has rested. -/
theorem mem_cuesOfWait {limit : Nat} {e : HoverEvent P} :
    e ∈ h.cuesOfWait limit ↔ ∃ n markup due, h.outline.Rests n due ∧ due ≤ limit ∧
      (h.marks.map (·.markup))[n]? = some markup ∧ e = .show markup h.pos due := by
  unfold cuesOfWait
  constructor
  · intro he
    split at he
    next a set =>
      split at he
      next early =>
        obtain ⟨n, markup, mine, found, rfl⟩ := mem_revealed.mp he
        have due : h.outline.restDue = some a.due := by rw [outline, set, Option.map_some]
        exact ⟨n, markup, a.due, ⟨mine, due⟩, early, found, rfl⟩
      next => cases he
    next => cases he
  · rintro ⟨n, markup, due, ⟨mine, due_then⟩, early, found, rfl⟩
    obtain ⟨a, set, rfl⟩ := Option.map_eq_some_iff.mp due_then
    rw [set]
    dsimp only
    rw [if_pos early]
    exact mem_revealed.mpr ⟨n, markup, mine, found, rfl⟩

theorem markup_of_bare {marks before : MarkTable Watcher} (e : marks.bare = before.bare) :
    marks.map (·.markup) = before.map (·.markup) := by
  have same := congrArg (List.map (·.markup)) e
  simpa [MarkTable.bare, Function.comp_def, Mark.bare] using same

/-! ## The pointer -/

/-- What the pointer does to a tooltip by coming to a living mark or to none. -/
structure Moved (now : Nat) (mark : Option Nat) (h : Hover P)
    (x : Logged (HoverEvent P) (Hover P)) : Prop where
  outline : x.value.outline = h.outline.move now mark
  told : cues x.events = h.cuesOfMove now mark

/-- A tooltip that rests. -/
theorem arrive_moved (s : Settled h) (idle : h.phase = .idle) (t : Moment) {mark : Option Nat}
    (alive : ∀ n, mark = some n → h.marks.isAlive n = true) :
    Moved t.now mark h (h.arrive t mark) := by
  have none_yet := s.idle.mp idle
  cases mark with
  | none => constructor <;> simp [arrive, Outline.move, outline, none_yet, cuesOfMove, cues]
  | some n =>
    obtain ⟨marks, e, w⟩ := setMark_rewatched s.watches (some n) alive
    rw [arrive, enter, e]
    by_cases back : h.fading = some n
    · obtain ⟨m, found, -⟩ := MarkTable.isAlive_iff.mp (w.watches.alive n rfl)
      have dark : h.phase ≠ .showing := by simp [idle]
      have unset := s.restAlarm_eq_none (by simp [idle])
      have shown : h.revealed t.now (some n) = [.show m.markup h.pos t.now] :=
        (revealed_congr (g := { h with marks, mark := some n }) w.markup rfl t.now _).symm.trans
          (revealed_eq found t.now)
      rw [if_pos back, reveal_eq (h := { h with marks, mark := some n }) t rfl found dark]
      constructor
      · simp [Outline.move, outline, none_yet, back, unset]
      · simp [cuesOfMove, back, shown, cues, HoverEvent.isCue]
    · have new : HoverPhase.tracking ≠ h.phase := by simp [idle]
      have other : ¬ some n = h.fading := fun same => back same.symm
      rw [if_neg back, setPhase_of_ne (h := { h with marks, mark := some n }) new]
      constructor
      · show outline { h with
          marks, mark := some n, phase := .tracking, restAlarm := some (t.alarm h.restDelay) } = _
        simp [Outline.move, Outline.phaseOn, outline, none_yet, idle, other, Moment.alarm]
      · show cues [.phase .tracking] = _
        simp [cuesOfMove, idle, other, cues, HoverEvent.isCue]

/-- A mark is tracked no more. -/
def giveUp (h : Hover P) : Logged (HoverEvent P) (Hover P) :=
  ({ h with restAlarm := none }.setMark none).setPhase .idle

theorem giveUp_outline (h : Hover P) :
    h.giveUp.value.outline = { h.outline with phase := .idle, mark := none, restDue := none } ∧
      cues h.giveUp.events = [] := by
  obtain ⟨marks, left⟩ := setMark_none { h with restAlarm := none }
  rw [giveUp, left]
  exact ⟨by rw [setPhase_value]; rfl, cues_setPhase _⟩

theorem giveUp_marks (h : Hover P) : h.giveUp.value.marks.bare = h.marks.bare := by
  simp [giveUp]

theorem leave_outline (t : Moment) (h : Hover P) :
    (h.leave t).value.outline =
        { h.outline with
          phase := .idle, mark := none, fading := h.mark, fadeDue := some (t.now + h.fadeDelay) } ∧
      cues (h.leave t).events = [.fade t.now] := by
  obtain ⟨marks, left⟩ := setMark_none { h with fading := h.mark }
  rw [leave, left]
  constructor
  · rw [Logged.bind_value, setPhase_value]
    rfl
  · show cues (.fade t.now :: (setPhase .idle _).events) = _
    rw [← List.singleton_append, cues_append, cues_setPhase]
    rfl

/-- A tooltip that has left its mark comes to the next. -/
theorem Moved.after {x : Logged (HoverEvent P) (Hover P)}
    {f : Hover P → Logged (HoverEvent P) (Hover P)} {now : Nat} {mark : Option Nat}
    (first : Moved now mark x.value (f x.value))
    (outline : x.value.outline.move now mark = h.outline.move now mark)
    (told : cues x.events ++ x.value.cuesOfMove now mark = h.cuesOfMove now mark) :
    Moved now mark h (x >>= f) where
  outline := first.outline.trans outline
  told := by rw [Logged.bind_events, cues_append, first.told, told]

theorem moveOver_moved (s : Settled h) (apart : h.Apart) (t : Moment) {mark : Option Nat}
    (alive : ∀ n, mark = some n → h.marks.isAlive n = true) :
    Moved t.now mark h (h.moveOver t mark) := by
  -- a mark that is alive before the tooltip leaves another is alive after that
  have still : ∀ g : Hover P, g.marks.bare = h.marks.bare →
      ∀ n, mark = some n → g.marks.isAlive n = true := fun g e n hn =>
    (isAlive_of_bare e n).trans (alive n hn)
  -- nothing happens to a tooltip whose mark the pointer is on
  have stays : mark = h.mark → ∀ x : Logged (HoverEvent P) (Hover P), x.value = h →
      cues x.events = [] → Moved t.now mark h x := by
    rintro rfl x value quiet
    have unfaded : ¬ (h.mark.isSome = true ∧ h.mark = h.fading) := fun ⟨busy, fades⟩ =>
      apart busy fades.symm
    constructor
    · simp [value, Outline.move, Hover.outline]
    · simp [quiet, cuesOfMove, unfaded]
  unfold moveOver
  split
  next showing =>
    by_cases same : mark = h.mark
    · rw [if_pos same]
      exact stays same _ rfl rfl
    · rw [if_neg same]
      have turn := leave_turn s showing t
      obtain ⟨outline, told⟩ := leave_outline t h
      have idle : (h.leave t).value.phase = .idle := congrArg Outline.phase outline
      have fading : (h.leave t).value.fading = h.mark := congrArg Outline.fading outline
      have unfaded := s.showing showing
      have unset := s.restAlarm_eq_none (by simp [showing])
      refine (arrive_moved (s.turn turn) idle t.next (still _ (leave_marks t h))).after ?_ ?_
      · rw [outline]
        cases mark <;> simp [Outline.move, Outline.phaseOn, Hover.outline, showing, same, unfaded,
          unset, Moment.next]
      · rw [told]
        cases mark <;> simp_all [cuesOfMove, Moment.next]
  next tracking =>
    by_cases same : mark = h.mark
    · rw [if_pos same]
      exact stays same _ rfl rfl
    · rw [if_neg same]
      have turn : Turn t.now h h.giveUp := giveUp_turn s tracking t.now
      obtain ⟨outline, told⟩ := h.giveUp_outline
      have idle : h.giveUp.value.phase = .idle := congrArg Outline.phase outline
      have fading : h.giveUp.value.fading = h.fading := congrArg Outline.fading outline
      have pos : h.giveUp.value.pos = h.pos := congrArg Outline.pos outline
      have shown := revealed_congr (markup_of_bare h.giveUp_marks) pos
      refine (arrive_moved (s.turn turn) idle t (still _ h.giveUp_marks)).after ?_ ?_
      · rw [outline]
        cases mark <;> simp [Outline.move, Outline.phaseOn, Hover.outline, tracking, same]
      · rw [told]
        simp [cuesOfMove, shown, fading, idle, tracking]
  next idle => exact arrive_moved s idle t alive

theorem move_moved (s : Settled h) (apart : h.Apart) (t : Moment) (mark : Option Nat) (pos : P) :
    Moved t.now (mark.filter h.marks.isAlive) { h with pos } (h.move t mark pos) := by
  have turn : Turn t.now h _ := .point pos
  have there : Settled { h with pos } := s.turn turn
  rw [move_eq_moveOver]
  exact moveOver_moved there apart t fun n hn => (Option.filter_eq_some_iff.mp hn).2

/-! ## Marks that are revoked, and the end -/

theorem revoke_outline (s : Settled h) (t : Moment) (n : Nat) :
    (h.revoke t n).value.outline = h.outline.revoke n ∧ cues (h.revoke t n).events = [] := by
  rw [revoke_eq s.watches]
  by_cases mine : h.mark = some n
  · rw [if_pos mine]
    cases phase : h.phase with
    | idle => simp [s.idle.mp phase] at mine
    | tracking =>
      simp [markRevoked, phase, setPhase_of_ne, outline, Outline.revoke, mine, cues,
        HoverEvent.isCue]
    | showing =>
      -- while a tooltip is shown, none fades
      have unset : h.fadeAlarm = none := by
        rw [← Option.not_isSome_iff_eq_none, s.fade, s.showing phase]
        exact Bool.false_ne_true
      simp [markRevoked, phase, setPhase_of_ne, outline, Outline.revoke, mine, unset, bind,
        Logged.publish, cues, HoverEvent.isCue]
  · rw [if_neg mine]
    exact ⟨(if_neg mine).symm, rfl⟩

theorem dispose_outline (t : Moment) (hideView : Bool) (h : Hover P) :
    (h.dispose t hideView).value.outline = h.outline.dispose ∧
      cues (h.dispose t hideView).events = [] := by
  obtain ⟨marks, left⟩ :=
    setMark_none { h with restAlarm := none, fadeAlarm := none, fading := none }
  have value : (h.dispose t hideView).value = { h with
      restAlarm := none, fadeAlarm := none, fading := none
      marks, mark := none, phase := .idle } := by
    unfold dispose
    rw [left]
    cases hideView <;> exact setPhase_value _ _
  constructor
  · rw [value]
    rfl
  · unfold dispose
    rw [left]
    cases hideView <;> exact cues_setPhase _

end Hover

namespace HoverRun
open Hover

/-! ## Time -/

/-- Nothing happens to a tooltip while none of its alarms is due. -/
theorem wait_undue {h : Hover P} {limit : Nat}
    (undue : ∀ label a, h.alarm? label = some a → limit < a.due) :
    h.outline.wait limit = h.outline ∧ h.cuesOfWait limit = [] := by
  have late : ∀ label, ((h.alarm? label).map (·.due)).any (· ≤ limit) = false := by
    intro label
    cases set : h.alarm? label with
    | none => rfl
    | some a => simpa using undue label a set
  constructor
  · have rest : h.outline.restDue.any (· ≤ limit) = false := late .rest
    have fade : h.outline.fadeDue.any (· ≤ limit) = false := late .fade
    simp [Outline.wait, rest, fade]
  · unfold cuesOfWait
    split
    next a set => rw [if_neg (Nat.not_le.mpr (undue .rest a set))]
    next => rfl

/-- The pointer has rested long enough, whether or not another tooltip fades. -/
theorem wait_rests {h : Hover P} {limit : Nat} {a : Alarm} (set : h.restAlarm = some a)
    (due : a.due ≤ limit) :
    h.outline.wait limit =
      { h.outline with phase := .showing, restDue := none, fading := none, fadeDue := none } := by
  simp [Outline.wait, outline, set, due]

theorem runTo_outline {limit rings : Nat} {r : HoverRun P} (s : Settled r.hover)
    (enough : alarmsSet r.hover < rings) :
    (runTo limit rings r).value.hover.outline = r.hover.outline.wait limit ∧
      cues (runTo limit rings r).events = r.hover.cuesOfWait limit := by
  induction rings generalizing r with
  | zero => exact absurd enough (Nat.not_lt_zero _)
  | succ rings ih =>
    unfold runTo
    cases due : Alarm.due? limit r.hover.alarms with
    | none =>
      have undue : ∀ label a, r.hover.alarm? label = some a → limit < a.due := fun label a set =>
        Alarm.lt_of_due?_eq_none due (mem_alarms.mpr set)
      obtain ⟨same, quiet⟩ := wait_undue undue
      exact ⟨same.symm, quiet.symm⟩
    | some rung =>
      obtain ⟨label, a⟩ := rung
      have set := mem_alarms.mp (Alarm.mem_of_due? due)
      have early := Alarm.le_of_due? due
      have isSet : (r.hover.alarm? label).isSome = true := by rw [set]; rfl
      let r' : HoverRun P := { r with now := a.due }
      let next := (r'.set (r.hover.ring r'.moment label)).value
      have turn := ring_turn s r'.moment label isSet
      have fewer := ring_alarmsSet s r'.moment isSet
      obtain ⟨value, told⟩ := ih (r := next) (s.turn turn)
        (Nat.lt_of_lt_of_le fewer (Nat.le_of_lt_succ enough))
      show (runTo limit rings next).value.hover.outline = _ ∧
        cues ((r.hover.ring r'.moment label).events ++ (runTo limit rings next).events) = _
      rw [cues_append, told, value]
      cases label with
      | rest =>
        have tracking := s.rest.mp isSet
        have dark : r.hover.phase ≠ .showing := by simp [tracking]
        obtain ⟨n, m, mark, found, -⟩ := s.exists_mark (by simp [tracking])
        have rung := ring_rest_eq s tracking r'.moment
        rw [reveal_eq (h := { r.hover with restAlarm := none }) r'.moment mark found dark] at rung
        dsimp only [next, HoverRun.set]
        rw [rung, wait_rests set early]
        constructor
        · simp [Outline.wait, outline, mark]
        · have shown : r.hover.cuesOfWait limit = r.hover.revealed a.due r.hover.mark := by
            have set : r.hover.restAlarm = some a := set
            rw [cuesOfWait, set]
            exact if_pos early
          rw [shown, mark, revealed_eq found]
          rfl
      | fade =>
        have set : r.hover.fadeAlarm = some a := set
        constructor
        · show Outline.wait limit { r.hover.outline with fading := none, fadeDue := none } = _
          simp [Outline.wait, outline, set, early]
        · rfl

theorem runTo_now (limit rings : Nat) (r : HoverRun P) :
    (runTo limit rings r).value.now = limit := by
  induction rings generalizing r with
  | zero => rfl
  | succ rings ih =>
    unfold runTo
    split
    · exact ih _
    · rfl

theorem runTo_marks (limit rings : Nat) (r : HoverRun P) :
    (runTo limit rings r).value.hover.marks.bare = r.hover.marks.bare := by
  induction rings generalizing r with
  | zero => rfl
  | succ rings ih =>
    unfold runTo
    split
    · exact (ih _).trans (ring_marks _ _ _)
    · rfl

/-! ## Steps -/

def Step.duration : Step P → Nat
  | .advance ms => ms
  | .move _ _ | .left | .revoke _ | .dispose _ => 0

/-- What the pointer is over after a step that moves it. -/
def Step.pointer? : Step P → Option (Option Nat)
  | .move mark _ => some mark
  | .left => some none
  | .advance _ | .revoke _ | .dispose _ => none

/-- Where the pointer is after a step, if it was at `pos` before. -/
def Step.placeFrom (pos : P) : Step P → P
  | .move _ pos => pos
  | .left | .advance _ | .revoke _ | .dispose _ => pos

variable {r : HoverRun P}

theorem step_now (a : Step P) (r : HoverRun P) : (r.step a).value.now = r.now + a.duration := by
  cases a with
  | advance ms => exact runTo_now _ _ r
  | move _ _ | left | revoke _ | dispose _ => rfl

theorem step_settled (s : Settled r.hover) (a : Step P) : Settled (r.step a).value.hover := by
  rw [(step_does a r).1]
  exact s.perform _

/-- The pointer is moved, or leaves the editor. -/
theorem step_pointer (s : Settled r.hover) (apart : r.hover.Apart) {a : Step P}
    {mark : Option Nat} (points : a.pointer? = some mark) :
    let there : Hover P := { r.hover with pos := a.placeFrom r.hover.pos }
    let living := mark.filter r.hover.marks.isAlive
    (r.step a).value.hover.outline = there.outline.move r.now living ∧
      cues (r.step a).events = there.cuesOfMove r.now living := by
  have step : r.step a = r.set (r.hover.move r.moment mark (a.placeFrom r.hover.pos)) := by
    cases a with
    | move mark' pos =>
      obtain rfl := Option.some.inj points
      rfl
    | left =>
      obtain rfl := Option.some.inj points
      rfl
    | advance _ | revoke _ | dispose _ => cases points
  have moved := move_moved s apart r.moment mark (a.placeFrom r.hover.pos)
  rw [step]
  exact ⟨moved.outline, moved.told⟩

theorem step_advance (s : Settled r.hover) (ms : Nat) :
    (r.step (.advance ms)).value.hover.outline = r.hover.outline.wait (r.now + ms) ∧
      cues (r.step (.advance ms)).events = r.hover.cuesOfWait (r.now + ms) :=
  runTo_outline s (Nat.lt_succ_of_le (alarmsSet_le r.hover))

/-- Only moving the pointer and letting time pass tell the view anything. -/
theorem step_told (s : Settled r.hover) (apart : r.hover.Apart) (a : Step P) :
    (∃ mark, a.pointer? = some mark ∧ cues (r.step a).events =
      Hover.cuesOfMove r.now (mark.filter r.hover.marks.isAlive)
        { r.hover with pos := a.placeFrom r.hover.pos }) ∨
    (∃ ms, a = .advance ms ∧ cues (r.step a).events = r.hover.cuesOfWait (r.now + ms)) ∨
    (a.pointer? = none ∧ (∀ ms, a ≠ .advance ms) ∧ cues (r.step a).events = []) := by
  cases a with
  | move mark pos => exact .inl ⟨mark, rfl, (step_pointer s apart rfl).2⟩
  | left => exact .inl ⟨none, rfl, (step_pointer s apart rfl).2⟩
  | advance ms => exact .inr (.inl ⟨ms, rfl, (step_advance s ms).2⟩)
  | revoke n =>
    have timeless (ms : Nat) : Step.revoke n ≠ .advance (P := P) ms := fun same => by cases same
    exact .inr (.inr ⟨rfl, timeless, (revoke_outline s r.moment n).2⟩)
  | dispose hideView =>
    have timeless (ms : Nat) : Step.dispose hideView ≠ .advance (P := P) ms := fun same => by
      cases same
    exact .inr (.inr ⟨rfl, timeless, (dispose_outline r.moment hideView r.hover).2⟩)

/-- In each step the view is told to show or to fade at most once. -/
theorem length_cues (s : Settled r.hover) (apart : r.hover.Apart) (a : Step P) :
    (cues (r.step a).events).length ≤ 1 := by
  obtain ⟨mark, -, told⟩ | ⟨ms, -, told⟩ | ⟨-, -, told⟩ := step_told s apart a <;> rw [told]
  · exact length_cuesOfMove _ _ _
  · exact length_cuesOfWait _ _
  · exact Nat.zero_le 1

/-- A step moves the pointer or does not touch it, and leaves the delays as they are. -/
theorem step_frame (s : Settled r.hover) (apart : r.hover.Apart) (a : Step P) :
    let o := (r.step a).value.hover.outline
    o.restDelay = r.hover.restDelay ∧ o.fadeDelay = r.hover.fadeDelay ∧
      o.pos = a.placeFrom r.hover.pos := by
  cases points : a.pointer? with
  | some mark =>
    rw [(step_pointer s apart points).1]
    exact Outline.move_frame _ _ _
  | none =>
    cases a with
    | move _ _ | left => cases points
    | advance ms =>
      rw [(step_advance s ms).1]
      exact Outline.wait_frame _ _
    | revoke n =>
      rw [show (r.step (.revoke n)).value.hover.outline = _ from (revoke_outline s r.moment n).1]
      exact Outline.revoke_frame _ _
    | dispose hideView =>
      rw [show (r.step (.dispose hideView)).value.hover.outline = _ from
        (dispose_outline r.moment hideView r.hover).1]
      exact ⟨rfl, rfl, rfl⟩

/-- Apart from who listens, only what is revoked changes in the table of marks. -/
theorem step_marks (a : Step P) (other : ∀ n, a ≠ .revoke n) (r : HoverRun P) :
    (r.step a).value.hover.marks.bare = r.hover.marks.bare := by
  cases a with
  | move mark pos => exact move_marks _ mark pos _
  | left => exact move_marks _ none _ _
  | advance ms => exact runTo_marks _ _ r
  | revoke n => exact absurd rfl (other n)
  | dispose hideView => exact dispose_marks _ hideView _

theorem step_revoke_marks (s : Settled r.hover) (n : Nat) :
    (r.step (.revoke n)).value.hover.marks = r.hover.marks.modify n Mark.revoked := by
  show (r.hover.revoke r.moment n).value.marks = _
  rw [revoke_eq s.watches]
  split
  · exact markRevoked_marks _ _
  · rfl

theorem step_isAlive (s : Settled r.hover) (a : Step P) (n : Nat) :
    (r.step a).value.hover.marks.isAlive n = true ↔
      r.hover.marks.isAlive n = true ∧ a ≠ .revoke n := by
  by_cases revoked : ∃ k, a = .revoke k
  · obtain ⟨k, rfl⟩ := revoked
    rw [step_revoke_marks s, MarkTable.isAlive, List.getElem?_modify, MarkTable.isAlive]
    by_cases same : k = n
    · cases r.hover.marks[n]? <;> simp [same, Mark.revoked, Mark.alive]
    · simp [same]
  · have other : ∀ k, a ≠ .revoke k := fun k same => revoked ⟨k, same⟩
    rw [isAlive_of_bare (step_marks a other r), and_iff_left (other n)]

theorem step_markup (s : Settled r.hover) (a : Step P) :
    (r.step a).value.hover.marks.map (·.markup) = r.hover.marks.map (·.markup) := by
  by_cases revoked : ∃ k, a = .revoke k
  · obtain ⟨k, rfl⟩ := revoked
    rw [step_revoke_marks s]
    exact map_modify_of_eq Mark.revoked_markup _ _
  · exact markup_of_bare (step_marks a (fun k same => revoked ⟨k, same⟩) r)

end HoverRun
end LiveLint
