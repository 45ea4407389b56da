import LiveLint.Proofs.Timing.Since
import LiveLint.Proofs.Tooltip.Steps
import Mathlib.Data.List.Induction

/-! # When a tooltip is shown

A tooltip is shown when the pointer has come to a mark and rested on it, or when it returns to a
mark whose tooltip still fades. Here this is said of the history of a run: of where the pointer
was moved, which marks were revoked and how much time has passed. A tooltip keeps no history,
and its mark, its alarms and the mark that fades are shown to tell all of it that matters. -/

namespace LiveLint.HoverRun
open Hover

variable {P : Type}

/-! ## Histories -/

/-- How much time passes in a history. -/
def elapsed (history : List (Step P)) : Nat :=
  history.foldl (fun now s => now + s.duration) 0

/-- Where the pointer is after a history. -/
def placeAfter (pos : P) (history : List (Step P)) : P :=
  history.foldl (fun pos s => s.placeFrom pos) pos

/-- A step lets the pointer stay on a mark. -/
def Stays (n : Nat) : Step P → Prop
  | .move mark _ => mark = some n
  | .revoke k => k ≠ n
  | .advance _ => True
  | .left | .dispose _ => False

/-- A step at a time does not reach the time that is due. -/
def Undue (now due : Nat) : Step P → Prop
  | .advance ms => now + ms < due
  | .move _ _ | .left | .revoke _ | .dispose _ => True

section

variable (r : HoverRun P) (n : Nat)

/-- The mark was not revoked before the run, nor in it. -/
def Living (history : List (Step P)) : Prop :=
  r.hover.marks.isAlive n = true ∧ .revoke n ∉ history

/-- The pointer has come to a living mark, and stays on it. -/
def OnMark : List (Step P) → Prop :=
  Since (fun before s => s.pointer? = some (some n) ∧ Living r n before) fun _ s => Stays n s

/-- A tooltip is shown in a step. -/
def ShowsIn (history : List (Step P)) (s : Step P) : Prop :=
  ∃ e ∈ ((r.run history).value.step s).events, e.isShow = true

/-- The tooltip of a mark was shown, and the pointer stays on the mark. -/
def InView : List (Step P) → Prop :=
  Since (fun before s => ShowsIn r before s ∧ OnMark r n (before ++ [s])) fun _ s => Stays n s

/-- The pointer leaves a mark whose tooltip is in view. -/
def Leaves (history : List (Step P)) (s : Step P) : Prop :=
  InView r n history ∧ ∃ mark, s.pointer? = some mark ∧ mark ≠ some n

/-- The tooltip of a mark began to fade at a time, and since then none was shown, the end did
not come, and the time for fading has not passed. -/
def FadesSince (t : Nat) : List (Step P) → Prop :=
  Since (fun before s => Leaves r n before s ∧ t = elapsed before) fun before s =>
    ¬ ShowsIn r before s ∧ (∀ hideView, s ≠ .dispose hideView) ∧
      Undue (elapsed before) (t + r.hover.fadeDelay) s

/-- The pointer comes to a living mark on which it was not, and which does not fade. -/
def Enters (history : List (Step P)) (s : Step P) : Prop :=
  s.pointer? = some (some n) ∧ Living r n history ∧ ¬ OnMark r n history ∧
    ∀ t, ¬ FadesSince r n t history

/-- The pointer entered a mark at a time, and stays on it, but has not rested long enough. -/
def RestsSince (t : Nat) : List (Step P) → Prop :=
  Since (fun before s => Enters r n before s ∧ t = elapsed before) fun before s =>
    Stays n s ∧ Undue (elapsed before) (t + r.hover.restDelay) s

/-- The time comes in a step at which the pointer has rested long enough. -/
def Rested (history : List (Step P)) (s : Step P) (now : Nat) : Prop :=
  ∃ ms since, s = .advance ms ∧ RestsSince r n since history ∧
    now = since + r.hover.restDelay ∧ now ≤ elapsed history + ms

/-- The pointer returns to a living mark whose tooltip still fades. -/
def Returns (history : List (Step P)) (s : Step P) (now : Nat) : Prop :=
  s.pointer? = some (some n) ∧ Living r n history ∧ (∃ since, FadesSince r n since history) ∧
    now = elapsed history

end

/-! ## What a tooltip recalls -/

theorem run_concat (history : List (Step P)) (s : Step P) (r : HoverRun P) :
    (r.run (history ++ [s])).value = ((r.run history).value.step s).value := by
  simp [run]

theorem elapsed_concat (history : List (Step P)) (s : Step P) :
    elapsed (history ++ [s]) = elapsed history + s.duration := by
  simp [elapsed]

theorem placeAfter_concat (pos : P) (history : List (Step P)) (s : Step P) :
    placeAfter pos (history ++ [s]) = s.placeFrom (placeAfter pos history) := by
  simp [placeAfter]

variable {r t : HoverRun P} {history : List (Step P)} {s : Step P} {n : Nat} {mark : Option Nat}

theorem living_concat :
    Living r n (history ++ [s]) ↔ Living r n history ∧ s ≠ .revoke n := by
  simp only [Living, List.mem_append, List.mem_singleton, not_or, and_assoc, ne_eq,
    eq_comm (a := s)]

theorem stays_pointer (points : s.pointer? = some mark) : Stays n s ↔ mark = some n := by
  cases s with
  | move mark' pos =>
    obtain rfl := Option.some.inj points
    exact Iff.rfl
  | left =>
    obtain rfl := Option.some.inj points
    exact ⟨False.elim, nofun⟩
  | advance _ | revoke _ | dispose _ => cases points

theorem undue_pointer (points : s.pointer? = some mark) (now due : Nat) : Undue now due s := by
  cases s with
  | move _ _ | left => trivial
  | advance _ | revoke _ | dispose _ => cases points

/-- The state `t` of a run after a history is in order. -/
structure Tracks (r : HoverRun P) (history : List (Step P)) (t : HoverRun P) : Prop where
  settled : Settled t.hover
  now : t.now = elapsed history
  restDelay : t.hover.restDelay = r.hover.restDelay
  fadeDelay : t.hover.fadeDelay = r.hover.fadeDelay
  pos : t.hover.pos = placeAfter r.hover.pos history
  markup : t.hover.marks.map (·.markup) = r.hover.marks.map (·.markup)
  alive : ∀ n, t.hover.marks.isAlive n = true ↔ Living r n history

/-- The outline of a tooltip tells of the history all that matters for what follows. -/
structure Recalls (r : HoverRun P) (history : List (Step P)) (o : Outline P) : Prop where
  mark : ∀ n, o.mark = some n ↔ OnMark r n history
  view : ∀ n, o.Shows n ↔ InView r n history
  fades : ∀ n since, o.Fades n (since + r.hover.fadeDelay) ↔ FadesSince r n since history
  rests : ∀ n since, o.Rests n (since + r.hover.restDelay) ↔ RestsSince r n since history
  /-- Alarms were set at some time. -/
  fadeSet : ∀ n due, o.Fades n due → r.hover.fadeDelay ≤ due
  restSet : ∀ n due, o.Rests n due → r.hover.restDelay ≤ due
  /-- No mark both fades and is the mark of the tooltip. -/
  apart : ∀ n due, o.Fades n due → o.mark ≠ some n

/-- What is due was set a delay ago. -/
theorem due_iff {due : Nat → Prop} {since : Nat → Prop} {delay : Nat}
    (told : ∀ began, due (began + delay) ↔ since began) (set : ∀ time, due time → delay ≤ time)
    (time : Nat) : due time ↔ ∃ began, since began ∧ time = began + delay := by
  constructor
  · intro h
    have began : time - delay + delay = time := Nat.sub_add_cancel (set time h)
    exact ⟨time - delay, (told _).mp (began.symm ▸ h), began.symm⟩
  · intro ⟨began, h, same⟩
    exact same ▸ (told began).mpr h

theorem Recalls.fades_iff {o : Outline P} (recalls : Recalls r history o) (due : Nat) :
    o.Fades n due ↔ ∃ since, FadesSince r n since history ∧ due = since + r.hover.fadeDelay :=
  due_iff (recalls.fades n) (recalls.fadeSet n) due

theorem Recalls.rests_iff {o : Outline P} (recalls : Recalls r history o) (due : Nat) :
    o.Rests n due ↔ ∃ since, RestsSince r n since history ∧ due = since + r.hover.restDelay :=
  due_iff (recalls.rests n) (recalls.restSet n) due

theorem Recalls.setPos {o : Outline P} (recalls : Recalls r history o) (pos : P) :
    Recalls r history { o with pos } :=
  ⟨recalls.mark, recalls.view, recalls.fades, recalls.rests, recalls.fadeSet, recalls.restSet,
    recalls.apart⟩

theorem Tracks.step (tracks : Tracks r history t) (apart : t.hover.Apart) (s : Step P) :
    Tracks r (history ++ [s]) (t.step s).value := by
  obtain ⟨restDelay, fadeDelay, pos⟩ := step_frame tracks.settled apart s
  exact {
    settled := step_settled tracks.settled s
    now := by rw [step_now, tracks.now, elapsed_concat]
    restDelay := restDelay.trans tracks.restDelay
    fadeDelay := fadeDelay.trans tracks.fadeDelay
    pos := by rw [placeAfter_concat, ← tracks.pos]; exact pos
    markup := (step_markup tracks.settled s).trans tracks.markup
    alive := fun n => by rw [step_isAlive tracks.settled, living_concat, tracks.alive] }

theorem Recalls.hover_apart {h : Hover P} (recalls : Recalls r history h.outline)
    (settled : Settled h) : h.Apart := by
  intro busy same
  obtain ⟨n, mine⟩ := Option.isSome_iff_exists.mp busy
  have fading : h.fading = some n := same.trans mine
  have set : h.fadeAlarm.isSome = true := settled.fade.mpr (by rw [fading]; rfl)
  obtain ⟨a, set⟩ := Option.isSome_iff_exists.mp set
  exact recalls.apart n a.due ⟨fading, by rw [outline, set, Option.map_some]⟩ mine

/-! ## One more step -/

theorem showsIn_iff : ShowsIn r history s ↔
    ∃ e ∈ cues ((r.run history).value.step s).events, e.isShow = true := by
  have cue : ∀ e : HoverEvent P, e.isShow = true → e.isCue = true := by
    intro e shown
    cases e <;> first | rfl | cases shown
  constructor
  · rintro ⟨e, he, shown⟩
    exact ⟨e, (mem_cues (cue e shown)).mpr he, shown⟩
  · rintro ⟨e, he, shown⟩
    exact ⟨e, (mem_cues (cue e shown)).mp he, shown⟩

theorem not_showsIn (quiet : cues ((r.run history).value.step s).events = []) :
    ¬ ShowsIn r history s := by
  rw [showsIn_iff, quiet]
  rintro ⟨e, he, -⟩
  cases he

section

variable (r) (history) (n)

/-! The pointer is moved. -/

theorem onMark_pointed (points : s.pointer? = some mark) : OnMark r n (history ++ [s]) ↔
    mark = some n ∧ (Living r n history ∨ OnMark r n history) := by
  rw [OnMark, since_concat, stays_pointer points, points, Option.some.injEq,
    and_comm (b := mark = _), and_or_left]

theorem inView_pointed (points : s.pointer? = some mark) : InView r n (history ++ [s]) ↔
    mark = some n ∧ (ShowsIn r history s ∧ OnMark r n (history ++ [s]) ∨ InView r n history) := by
  have on : OnMark r n (history ++ [s]) → mark = some n := fun on =>
    ((onMark_pointed r history n points).mp on).1
  rw [InView, since_concat, ← InView, stays_pointer points]
  constructor
  · intro h
    obtain shown | ⟨view, stays⟩ := h
    · exact ⟨on shown.2, .inl shown⟩
    · exact ⟨stays, .inr view⟩
  · intro ⟨stays, h⟩
    exact h.imp_right fun view => ⟨view, stays⟩

theorem fadesSince_pointed (points : s.pointer? = some mark) (since : Nat) :
    FadesSince r n since (history ++ [s]) ↔
      (InView r n history ∧ mark ≠ some n ∧ since = elapsed history) ∨
      (FadesSince r n since history ∧ ¬ ShowsIn r history s) := by
  have undisposed : ∀ hideView, s ≠ .dispose hideView := by
    intro hideView same
    subst same
    cases points
  rw [FadesSince, since_concat, Leaves, points]
  simp [undisposed, undue_pointer points, and_assoc]

theorem restsSince_pointed (points : s.pointer? = some mark) (since : Nat) :
    RestsSince r n since (history ++ [s]) ↔
      mark = some n ∧
        ((Enters r n history s ∧ since = elapsed history) ∨ RestsSince r n since history) := by
  have enters : Enters r n history s → mark = some n := fun enters =>
    Option.some.inj (points.symm.trans enters.1)
  rw [RestsSince, since_concat, ← RestsSince, stays_pointer points,
    and_iff_left (undue_pointer points _ _)]
  constructor
  · intro h
    obtain entered | ⟨rests, stays⟩ := h
    · exact ⟨enters entered.1, .inl entered⟩
    · exact ⟨stays, .inr rests⟩
  · intro ⟨stays, h⟩
    exact h.imp_right fun rests => ⟨rests, stays⟩

end

section

variable (state : (r.run history).value = t) (tracks : Tracks r history t)
  (recalls : Recalls r history t.hover.outline)
include state tracks recalls

/-- A pointer lets a tooltip be shown by returning to the mark that fades. -/
theorem showsIn_pointer (points : s.pointer? = some mark) : ShowsIn r history s ↔
    ∃ n, mark.filter t.hover.marks.isAlive = some n ∧ t.hover.fading = some n := by
  have apart := recalls.hover_apart tracks.settled
  let there : Hover P := { t.hover with pos := s.placeFrom t.hover.pos }
  have sound : there.outline.Sound := (tracks.settled.outline_sound apart).setPos _
  rw [showsIn_iff, state, (step_pointer tracks.settled apart points).2]
  constructor
  · rintro ⟨e, he, shown⟩
    obtain ⟨n, markup, on, fading, -, -⟩ | ⟨n, -, -, rfl⟩ := (mem_cuesOfMove sound).mp he
    · exact ⟨n, on, fading⟩
    · cases shown
  · rintro ⟨n, on, fading⟩
    obtain ⟨m, found, -⟩ := MarkTable.isAlive_iff.mp (Option.filter_eq_some_iff.mp on).2
    have markup : (there.marks.map (·.markup))[n]? = some m.markup := by
      rw [List.getElem?_map, found, Option.map_some]
    exact ⟨.show m.markup there.pos t.now,
      (mem_cuesOfMove sound).mpr (.inl ⟨n, m.markup, on, fading, markup, rfl⟩), rfl⟩

omit recalls in
theorem showsIn_advance (ms : Nat) :
    ShowsIn r history (.advance ms) ↔ t.hover.outline.Rested (t.now + ms) := by
  rw [showsIn_iff, state, (step_advance tracks.settled ms).2]
  constructor
  · rintro ⟨e, he, -⟩
    obtain ⟨n, markup, due, rests, early, -, -⟩ := mem_cuesOfWait.mp he
    exact rests.rested.mpr early
  · rintro ⟨due, set, early⟩
    have isSet : t.hover.restAlarm.isSome = true := by
      obtain ⟨a, set, -⟩ := Option.map_eq_some_iff.mp set
      rw [set]
      rfl
    have tracking := tracks.settled.rest.mp isSet
    obtain ⟨n, m, mine, found, -⟩ := tracks.settled.exists_mark (by simp [tracking])
    have markup : (t.hover.marks.map (·.markup))[n]? = some m.markup := by
      rw [List.getElem?_map, found, Option.map_some]
    exact ⟨.show m.markup t.hover.pos due,
      mem_cuesOfWait.mpr ⟨n, m.markup, due, ⟨mine, set⟩, early, markup, rfl⟩, rfl⟩

omit state in
/-- A mark fades exactly if it has begun to at some time. -/
theorem fading_iff (n : Nat) : t.hover.fading = some n ↔ ∃ since, FadesSince r n since history := by
  have sound := tracks.settled.outline_sound (recalls.hover_apart tracks.settled)
  constructor
  · intro fading
    have isSet : t.hover.outline.fadeDue.isSome = true := sound.fade.mpr (by simp [outline, fading])
    obtain ⟨due, set⟩ := Option.isSome_iff_exists.mp isSet
    obtain ⟨since, fades, -⟩ := (recalls.fades_iff due).mp ⟨fading, set⟩
    exact ⟨since, fades⟩
  · rintro ⟨since, fades⟩
    exact ((recalls.fades n since).mpr fades).1

/-- What is recalled after the pointer was moved. -/
theorem Recalls.pointer (points : s.pointer? = some mark) :
    Recalls r (history ++ [s]) (t.step s).value.hover.outline := by
  have apart := recalls.hover_apart tracks.settled
  have lives (n : Nat) : mark.filter t.hover.marks.isAlive = some n ↔
      mark = some n ∧ Living r n history := by
    rw [Option.filter_eq_some_iff, tracks.alive]
  -- the outline before the step, with the pointer where it is moved to
  let o : Outline P := { t.hover.outline with pos := s.placeFrom t.hover.pos }
  have sound : o.Sound := (tracks.settled.outline_sound apart).setPos _
  have before : Recalls r history o := recalls.setPos _
  have outline : (t.step s).value.hover.outline =
      o.move t.now (mark.filter t.hover.marks.isAlive) :=
    (step_pointer tracks.settled apart points).1
  have shows : ShowsIn r history s ↔
      ∃ n, mark.filter t.hover.marks.isAlive = some n ∧ o.fading = some n :=
    showsIn_pointer state tracks recalls points
  have fading (n : Nat) : o.fading = some n ↔ ∃ since, FadesSince r n since history :=
    fading_iff tracks recalls n
  have living (n : Nat) (mine : o.mark = some n) : Living r n history :=
    (tracks.alive n).mp (tracks.settled.watches.alive n mine)
  have restDelay : o.restDelay = r.hover.restDelay := tracks.restDelay
  have fadeDelay : o.fadeDelay = r.hover.fadeDelay := tracks.fadeDelay
  rw [outline, tracks.now]
  clear_value o
  generalize mark.filter t.hover.marks.isAlive = m at shows lives ⊢
  have onMark (n : Nat) : OnMark r n (history ++ [s]) ↔ m = some n := by
    rw [onMark_pointed r history n points, ← before.mark, lives, or_iff_left_of_imp (living n)]
  constructor
  case mark =>
    intro n
    rw [Outline.move_mark, onMark]
  case view =>
    intro n
    rw [sound.move_shows, inView_pointed r history n points, ← before.view, onMark, shows]
    constructor
    · intro ⟨on, h⟩
      exact ⟨((lives n).mp on).1, h.imp_left fun fades => ⟨⟨n, on, fades⟩, on⟩⟩
    · intro ⟨stays, h⟩
      obtain ⟨⟨k, on', fades⟩, on⟩ | shown := h
      · obtain rfl : k = n := Option.some.inj (on'.symm.trans on)
        exact ⟨on, .inl fades⟩
      · exact ⟨(lives n).mpr ⟨stays, living n shown.2⟩, .inr shown⟩
  case fades =>
    intro n since
    -- a mark in view is alive, so whether the pointer goes off it does not depend on that
    have leaves : o.Shows n → (m ≠ some n ↔ mark ≠ some n) := by
      intro shown
      rw [ne_eq, lives, and_iff_left (living n shown.2)]
    have unshown : o.Fades n (since + r.hover.fadeDelay) →
        (m ≠ some n ↔ ¬ ∃ k, m = some k ∧ o.fading = some k) := by
      intro fades
      simp [fades.1]
    rw [sound.move_fades, fadesSince_pointed r history n points, ← before.view, ← before.fades,
      shows, fadeDelay, Nat.add_right_cancel_iff, and_or_left]
    refine or_congr ?_ ?_
    · rw [and_left_comm]
      exact and_congr_right fun shown => and_congr_left' (leaves shown)
    · rw [and_comm]
      exact and_congr_right unshown
  case rests =>
    intro n since
    have enters : Enters r n history s ↔ m = some n ∧ o.mark ≠ some n ∧ o.fading ≠ some n := by
      rw [Enters, points, Option.some.injEq, ← and_assoc, ← lives, ← before.mark, ← not_exists,
        ← fading]
    rw [sound.move_rests, restsSince_pointed r history n points, ← before.rests, enters,
      restDelay, Nat.add_right_cancel_iff]
    constructor
    · intro ⟨on, h⟩
      exact ⟨((lives n).mp on).1, h.imp_left fun ⟨elsewhere, unfaded, now⟩ =>
        ⟨⟨on, elsewhere, unfaded⟩, now⟩⟩
    · intro ⟨stays, h⟩
      obtain ⟨⟨on, elsewhere, unfaded⟩, now⟩ | rests := h
      · exact ⟨on, .inl ⟨elsewhere, unfaded, now⟩⟩
      · exact ⟨(lives n).mpr ⟨stays, living n rests.1⟩, .inr rests⟩
  case fadeSet =>
    intro n due fades
    obtain ⟨-, ⟨-, rfl⟩ | fades⟩ := sound.move_fades.mp fades
    · exact fadeDelay ▸ Nat.le_add_left _ _
    · exact before.fadeSet n due fades
  case restSet =>
    intro n due rests
    obtain ⟨-, ⟨-, -, rfl⟩ | rests⟩ := sound.move_rests.mp rests
    · exact restDelay ▸ Nat.le_add_left _ _
    · exact before.restSet n due rests
  case apart =>
    intro n due fades
    rw [Outline.move_mark]
    exact (sound.move_fades.mp fades).1

omit state tracks recalls in
/-- A step that does not move the pointer begins nothing but a show. -/
theorem since_unpointed (r : HoverRun P) (history : List (Step P)) (points : s.pointer? = none)
    (n : Nat) :
    (OnMark r n (history ++ [s]) ↔ OnMark r n history ∧ Stays n s) ∧
    (∀ since, FadesSince r n since (history ++ [s]) ↔
      FadesSince r n since history ∧
        ¬ ShowsIn r history s ∧ (∀ hideView, s ≠ .dispose hideView) ∧
        Undue (elapsed history) (since + r.hover.fadeDelay) s) ∧
    ∀ since, RestsSince r n since (history ++ [s]) ↔
      RestsSince r n since history ∧
        Stays n s ∧ Undue (elapsed history) (since + r.hover.restDelay) s := by
  refine ⟨?_, fun since => ?_, fun since => ?_⟩
  · rw [OnMark, since_concat, points]
    simp
  · rw [FadesSince, since_concat, Leaves, points]
    simp
  · rw [RestsSince, since_concat, Enters, points]
    simp

omit state tracks recalls in
theorem inView_unshown (unshown : ¬ ShowsIn r history s) (n : Nat) :
    InView r n (history ++ [s]) ↔ InView r n history ∧ Stays n s := by
  rw [InView, since_concat]
  simp [unshown]

/-- What is recalled after time has passed. -/
theorem Recalls.advance (ms : Nat) :
    Recalls r (history ++ [.advance ms]) (t.step (.advance ms)).value.hover.outline := by
  have shows := showsIn_advance state tracks ms
  have since := since_unpointed r history (s := .advance ms) rfl
  rw [(step_advance tracks.settled ms).1]
  generalize t.hover.outline = o at recalls shows ⊢
  rw [tracks.now] at shows ⊢
  constructor
  case mark =>
    intro n
    rw [Outline.wait_mark, (since n).1, recalls.mark]
    exact (and_iff_left trivial).symm
  case view =>
    intro n
    rw [Outline.wait_shows, InView, since_concat, ← InView, ← recalls.view, shows, (since n).1,
      ← recalls.mark]
    simp [Stays]
  case fades =>
    intro n since'
    rw [Outline.wait_fades, (since n).2.1, recalls.fades, shows]
    simp [Undue]
  case rests =>
    intro n since'
    rw [Outline.wait_rests, (since n).2.2, recalls.rests]
    simp [Undue, Stays]
  case fadeSet => exact fun n due fades => recalls.fadeSet n due (Outline.wait_fades.mp fades).1
  case restSet => exact fun n due rests => recalls.restSet n due (Outline.wait_rests.mp rests).1
  case apart =>
    intro n due fades
    rw [Outline.wait_mark]
    exact recalls.apart n due (Outline.wait_fades.mp fades).1

/-- What is recalled after a mark was revoked. -/
theorem Recalls.revoke (k : Nat) :
    Recalls r (history ++ [.revoke k]) (t.step (.revoke k)).value.hover.outline := by
  obtain ⟨outline, quiet⟩ := revoke_outline tracks.settled t.moment k
  have unshown : ¬ ShowsIn r history (.revoke k) := not_showsIn (state ▸ quiet)
  have since := since_unpointed r history (s := .revoke k) rfl
  rw [show (t.step (.revoke k)).value.hover.outline = _ from outline]
  generalize t.hover.outline = o at recalls ⊢
  constructor
  case mark =>
    intro n
    rw [Outline.revoke_mark, (since n).1, recalls.mark]
    rfl
  case view =>
    intro n
    rw [Outline.revoke_shows, inView_unshown unshown, recalls.view]
    rfl
  case fades =>
    intro n since'
    rw [Outline.revoke_fades, (since n).2.1, recalls.fades]
    simp [unshown, Undue]
  case rests =>
    intro n since'
    rw [Outline.revoke_rests, (since n).2.2, recalls.rests]
    simp [Undue, Stays]
  case fadeSet => exact fun n due fades => recalls.fadeSet n due (Outline.revoke_fades.mp fades)
  case restSet => exact fun n due rests => recalls.restSet n due (Outline.revoke_rests.mp rests).1
  case apart =>
    intro n due fades mine
    exact recalls.apart n due (Outline.revoke_fades.mp fades) (Outline.revoke_mark.mp mine).1

omit tracks recalls in
/-- Nothing is recalled after the end. -/
theorem Recalls.dispose (hideView : Bool) :
    Recalls r (history ++ [.dispose hideView])
      (t.step (.dispose hideView)).value.hover.outline := by
  obtain ⟨outline, quiet⟩ := dispose_outline t.moment hideView t.hover
  have unshown : ¬ ShowsIn r history (.dispose hideView) := not_showsIn (state ▸ quiet)
  have since := since_unpointed r history (s := .dispose hideView) rfl
  rw [show (t.step (.dispose hideView)).value.hover.outline = _ from outline]
  constructor
  case mark =>
    intro n
    rw [(since n).1]
    simp [Outline.dispose, Stays]
  case view =>
    intro n
    rw [inView_unshown unshown]
    simp [Outline.dispose, Outline.Shows, Stays]
  case fades =>
    intro n since'
    rw [(since n).2.1]
    simp [Outline.dispose, Outline.Fades]
  case rests =>
    intro n since'
    rw [(since n).2.2]
    simp [Outline.dispose, Outline.Rests, Stays]
  case fadeSet => exact fun n due fades => by cases fades.1
  case restSet => exact fun n due rests => by cases rests.1
  case apart => exact fun n due fades => by cases fades.1

theorem Recalls.step (s : Step P) :
    Recalls r (history ++ [s]) (t.step s).value.hover.outline := by
  cases s with
  | move mark pos => exact recalls.pointer state tracks rfl
  | left => exact recalls.pointer state tracks rfl
  | advance ms => exact recalls.advance state tracks ms
  | revoke k => exact recalls.revoke state tracks k
  | dispose hideView => exact Recalls.dispose state hideView

/-! ## What is shown -/

omit state in
/-- A tooltip is shown to a pointer that returns. -/
theorem mem_show_pointer (points : s.pointer? = some mark) {markup : String} {place : P}
    {now : Nat} :
    .show markup place now ∈ Hover.cuesOfMove t.now (mark.filter t.hover.marks.isAlive)
        { t.hover with pos := s.placeFrom t.hover.pos } ↔
      ∃ n, (t.hover.marks.map (·.markup))[n]? = some markup ∧
        place = s.placeFrom t.hover.pos ∧ Returns r n history s now := by
  have apart := recalls.hover_apart tracks.settled
  let there : Hover P := { t.hover with pos := s.placeFrom t.hover.pos }
  have sound : there.outline.Sound := (tracks.settled.outline_sound apart).setPos _
  have fading := fading_iff tracks recalls
  rw [mem_cuesOfMove sound, tracks.now]
  constructor
  · rintro (⟨n, markup', on, fades, found, e⟩ | ⟨n, -, -, e⟩)
    · obtain ⟨rfl, alive⟩ := Option.filter_eq_some_iff.mp on
      cases e
      exact ⟨n, found, rfl, points, (tracks.alive n).mp alive, (fading n).mp fades, rfl⟩
    · cases e
  · rintro ⟨n, found, rfl, points', living, fades, rfl⟩
    have on : mark = some n := Option.some.inj (points.symm.trans points')
    have alive := Option.filter_eq_some_iff.mpr ⟨on, (tracks.alive n).mpr living⟩
    exact .inl ⟨n, markup, alive, (fading n).mpr fades, found, rfl⟩

omit state in
/-- A tooltip is shown to a pointer that has rested. -/
theorem mem_show_advance (ms : Nat) {markup : String} {place : P} {now : Nat} :
    .show markup place now ∈ t.hover.cuesOfWait (t.now + ms) ↔
      ∃ n, (t.hover.marks.map (·.markup))[n]? = some markup ∧ place = t.hover.pos ∧
        Rested r n history (.advance ms) now := by
  rw [mem_cuesOfWait, tracks.now]
  constructor
  · rintro ⟨n, markup', due, rests, early, found, e⟩
    cases e
    obtain ⟨since, rests, same⟩ := (recalls.rests_iff now).mp rests
    exact ⟨n, found, rfl, ms, since, rfl, rests, same, early⟩
  · rintro ⟨n, found, rfl, ms', since, e, rests, same, early⟩
    cases e
    exact ⟨n, markup, now, (recalls.rests_iff now).mpr ⟨since, rests, same⟩, early, found, rfl⟩

omit state in
theorem mem_show (s : Step P) {markup : String} {place : P} {now : Nat} :
    .show markup place now ∈ (t.step s).events ↔
      ∃ n, (r.hover.marks.map (·.markup))[n]? = some markup ∧
        place = placeAfter r.hover.pos (history ++ [s]) ∧
        (Rested r n history s now ∨ Returns r n history s now) := by
  have apart := recalls.hover_apart tracks.settled
  rw [← mem_cues rfl, placeAfter_concat, ← tracks.pos, ← tracks.markup]
  obtain ⟨mark, points, told⟩ | ⟨ms, rfl, told⟩ | ⟨unmoved, timeless, told⟩ :=
    step_told tracks.settled apart s
  · have unrested (n : Nat) : ¬ Rested r n history s now := by
      rintro ⟨ms, since, rfl, -⟩
      cases points
    rw [told, mem_show_pointer tracks recalls points]
    simp only [unrested, false_or]
  · have away (n : Nat) : ¬ Returns r n history (.advance ms) now := by
      rintro ⟨points, -⟩
      cases points
    rw [told, mem_show_advance tracks recalls ms]
    simp only [away, or_false]
    rfl
  · have away (n : Nat) : ¬ Returns r n history s now := by
      rintro ⟨points, -⟩
      cases unmoved.symm.trans points
    have unrested (n : Nat) : ¬ Rested r n history s now := by
      rintro ⟨ms, since, same, -⟩
      exact timeless ms same
    simp [told, unrested, away]

omit state in
/-- A tooltip begins to fade when the pointer leaves its mark. -/
theorem mem_fade (s : Step P) {now : Nat} :
    .fade now ∈ (t.step s).events ↔ now = elapsed history ∧ ∃ n, Leaves r n history s := by
  have apart := recalls.hover_apart tracks.settled
  rw [← mem_cues rfl]
  obtain ⟨mark, points, told⟩ | ⟨ms, rfl, told⟩ | ⟨unmoved, -, told⟩ :=
    step_told tracks.settled apart s
  · let there : Hover P := { t.hover with pos := s.placeFrom t.hover.pos }
    have sound : there.outline.Sound := (tracks.settled.outline_sound apart).setPos _
    rw [told, mem_cuesOfMove sound, tracks.now]
    constructor
    · rintro (⟨n, markup, -, -, -, e⟩ | ⟨n, shown, away, e⟩)
      · cases e
      · cases e
        have alive := tracks.settled.watches.alive n shown.2
        refine ⟨rfl, n, (recalls.view n).mp shown, mark, points, fun on => away ?_⟩
        exact Option.filter_eq_some_iff.mpr ⟨on, alive⟩
    · rintro ⟨rfl, n, view, mark', points', away⟩
      obtain rfl : mark = mark' := Option.some.inj (points.symm.trans points')
      refine .inr ⟨n, (recalls.view n).mpr view, fun on => away ?_, rfl⟩
      exact (Option.filter_eq_some_iff.mp on).1
  · have stays (n : Nat) : ¬ Leaves r n history (.advance ms) := by
      rintro ⟨-, mark, points, -⟩
      cases points
    rw [told, mem_cuesOfWait]
    simp [stays]
  · have stays (n : Nat) : ¬ Leaves r n history s := by
      rintro ⟨-, mark, points, -⟩
      cases unmoved.symm.trans points
    simp [told, stays]

end

/-! ## Runs -/

theorem start_tracks (restDelay fadeDelay : Nat) (table : List (Mark Watcher)) (pos : P) :
    let r : HoverRun P := { hover := start restDelay fadeDelay table pos }
    Tracks r [] r ∧ Recalls r [] r.hover.outline := by
  intro r
  refine ⟨⟨start_settled restDelay fadeDelay table pos, rfl, rfl, rfl, rfl, rfl, ?_⟩, ?_⟩
  · exact fun n => (and_iff_left List.not_mem_nil).symm
  · constructor
    case mark => exact fun n => iff_of_false nofun not_since_nil
    case view => exact fun n => iff_of_false (fun shown => by cases shown.1) not_since_nil
    case fades => exact fun n since => iff_of_false (fun fades => by cases fades.1) not_since_nil
    case rests => exact fun n since => iff_of_false (fun rests => by cases rests.1) not_since_nil
    case fadeSet => exact fun n due fades => by cases fades.1
    case restSet => exact fun n due rests => by cases rests.1
    case apart => exact fun n due fades => by cases fades.1

theorem run_tracks (start : Tracks r [] r ∧ Recalls r [] r.hover.outline)
    (history : List (Step P)) :
    Tracks r history (r.run history).value ∧
      Recalls r history (r.run history).value.hover.outline := by
  induction history using List.reverseRecOn with
  | nil => exact start
  | append_singleton history s ih =>
    obtain ⟨tracks, recalls⟩ := ih
    rw [run_concat]
    exact ⟨tracks.step (recalls.hover_apart tracks.settled) s, recalls.step rfl tracks s⟩

/-- **A tooltip is shown when the pointer has rested or returns.** Whatever has happened, the
next step shows a tooltip exactly if the time comes in it at which the pointer has rested on a
mark for the delay since it entered it, or if it moves the pointer to a living mark whose tooltip
still fades. It is the tooltip of that mark, at the place of the pointer. A tooltip begins to fade
exactly if the step moves the pointer off the mark whose tooltip is in view, and in no step more
than one thing of these happens. -/
theorem shown_on_rest_or_return (restDelay fadeDelay : Nat) (table : List (Mark Watcher)) (pos : P)
    (history : List (Step P)) (s : Step P) :
    let r : HoverRun P := { hover := start restDelay fadeDelay table pos }
    let events := ((r.run history).value.step s).events
    (r.run (history ++ [s])).events = (r.run history).events ++ events ∧
    (∀ markup place now, .show markup place now ∈ events ↔
      ∃ n, (table.map (·.markup))[n]? = some markup ∧
        place = placeAfter pos (history ++ [s]) ∧
        (Rested r n history s now ∨ Returns r n history s now)) ∧
    (∀ now, .fade now ∈ events ↔ now = elapsed history ∧ ∃ n, Leaves r n history s) ∧
    (cues events).length ≤ 1 := by
  intro r events
  obtain ⟨tracks, recalls⟩ := run_tracks (start_tracks restDelay fadeDelay table pos) history
  have apart := recalls.hover_apart tracks.settled
  have markups : r.hover.marks.map (·.markup) = table.map (·.markup) := by
    simp [r, start, MarkTable.bare, Mark.bare]
  refine ⟨?_, ?_, ?_, length_cues tracks.settled apart s⟩
  · simp [run, events]
  · intro markup place now
    rw [← markups]
    exact mem_show tracks recalls s
  · intro now
    exact mem_fade tracks recalls s

end LiveLint.HoverRun
