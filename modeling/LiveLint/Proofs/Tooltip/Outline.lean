import LiveLint.Tooltip.Hover
import Mathlib.Data.List.Basic

/-! # The outline of a tooltip

Apart from who listens to which mark and from the turns of its alarms, a tooltip has a phase, a
mark, a mark that fades and the times at which its alarms are due. What happens to it is a plain
function of these. -/

namespace LiveLint

/-- A tooltip without its table of marks, and with alarms that are due at a time. -/
structure Outline (P : Type) where
  restDelay : Nat
  fadeDelay : Nat
  phase : HoverPhase
  mark : Option Nat
  fading : Option Nat
  pos : P
  restDue : Option Nat
  fadeDue : Option Nat

variable {P : Type}

namespace Outline

/-- The phase of a tooltip that is not shown. -/
def phaseOn (mark : Option Nat) : HoverPhase := if mark.isSome then .tracking else .idle

/-- The pointer is over a living mark, or over none. -/
def move (now : Nat) (mark : Option Nat) (o : Outline P) : Outline P :=
  if mark = o.mark then o
  else if mark.isSome ∧ mark = o.fading then
    { o with phase := .showing, mark, restDue := none, fading := none, fadeDue := none }
  else
    { o with
      phase := phaseOn mark
      mark
      restDue := mark.map fun _ => now + o.restDelay
      fading := if o.phase = .showing then o.mark else o.fading
      fadeDue := if o.phase = .showing then some (now + o.fadeDelay) else o.fadeDue }

def revoke (n : Nat) (o : Outline P) : Outline P :=
  if o.mark = some n then { o with phase := .idle, mark := none, restDue := none } else o

def dispose (o : Outline P) : Outline P :=
  { o with phase := .idle, mark := none, restDue := none, fading := none, fadeDue := none }

/-- Time has passed up to `limit`. -/
def wait (limit : Nat) (o : Outline P) : Outline P :=
  if o.restDue.any (· ≤ limit) then
    { o with phase := .showing, restDue := none, fading := none, fadeDue := none }
  else if o.fadeDue.any (· ≤ limit) then { o with fading := none, fadeDue := none }
  else o

/-! ## What outlines tell -/

/-- What the parts of an outline have to do with each other. -/
structure Sound (o : Outline P) : Prop where
  idle : o.phase = .idle ↔ o.mark = none
  rest : o.restDue.isSome = true ↔ o.phase = .tracking
  fade : o.fadeDue.isSome = true ↔ o.fading.isSome = true
  showing : o.phase = .showing → o.fading = none
  apart : o.mark.isSome = true → o.fading ≠ o.mark

/-- The tooltip of a mark is in view. -/
def Shows (n : Nat) (o : Outline P) : Prop := o.phase = .showing ∧ o.mark = some n

/-- The tooltip of a mark fades until a time. -/
def Fades (n due : Nat) (o : Outline P) : Prop := o.fading = some n ∧ o.fadeDue = some due

/-- The pointer is on a mark whose tooltip is to be shown at a time. -/
def Rests (n due : Nat) (o : Outline P) : Prop := o.mark = some n ∧ o.restDue = some due

/-- The pointer will have rested long enough by a time. -/
def Rested (limit : Nat) (o : Outline P) : Prop := ∃ due, o.restDue = some due ∧ due ≤ limit

variable {o : Outline P} {now limit n k due : Nat} {mark : Option Nat}

/-- It makes no difference where the pointer is. -/
theorem Sound.setPos (s : o.Sound) (pos : P) : Sound { o with pos } :=
  ⟨s.idle, s.rest, s.fade, s.showing, s.apart⟩

theorem Rests.rested (h : o.Rests n due) : o.Rested limit ↔ due ≤ limit := by
  simp [Rested, h.2]

/-- A tooltip stays as it is, is shown because it returns to its mark, leaves the mark for which
it was shown, or goes from one mark to another without having been shown. -/
theorem Sound.move_cases (s : o.Sound) (now : Nat) (mark : Option Nat) :
    (mark = o.mark ∧ o.move now mark = o) ∨
    (∃ k, mark = some k ∧ o.fading = some k ∧ o.mark ≠ some k ∧ o.phase ≠ .showing ∧
      o.move now mark =
        { o with phase := .showing, mark, restDue := none, fading := none, fadeDue := none }) ∨
    (∃ k, o.Shows k ∧ mark ≠ some k ∧ o.fading = none ∧
      o.move now mark =
        { o with
          phase := phaseOn mark, mark, restDue := mark.map fun _ => now + o.restDelay
          fading := some k, fadeDue := some (now + o.fadeDelay) }) ∨
    (mark ≠ o.mark ∧ (∀ k, mark = some k → o.fading ≠ some k) ∧ o.phase ≠ .showing ∧
      o.move now mark =
        { o with
          phase := phaseOn mark, mark, restDue := mark.map fun _ => now + o.restDelay }) := by
  unfold Outline.move
  by_cases same : mark = o.mark
  · exact .inl ⟨same, if_pos same⟩
  · rw [if_neg same]
    by_cases back : mark.isSome ∧ mark = o.fading
    · obtain ⟨k, rfl⟩ := Option.isSome_iff_exists.mp back.1
      have fading : o.fading = some k := back.2.symm
      have dark : o.phase ≠ .showing := fun shown => by simp [s.showing shown] at fading
      rw [if_pos back]
      exact .inr (.inl ⟨k, rfl, fading, fun mine => same mine.symm, dark, rfl⟩)
    · rw [if_neg back]
      have other : ∀ k, mark = some k → o.fading ≠ some k := by
        rintro k rfl fading
        exact back ⟨rfl, fading.symm⟩
      by_cases shown : o.phase = .showing
      · obtain ⟨k, mine⟩ := Option.ne_none_iff_exists'.mp (mt s.idle.mpr (by simp [shown]))
        rw [if_pos shown, if_pos shown, mine]
        rw [mine] at same
        exact .inr (.inr (.inl ⟨k, ⟨shown, mine⟩, same, s.showing shown, rfl⟩))
      · rw [if_neg shown, if_neg shown]
        exact .inr (.inr (.inr ⟨same, other, shown, rfl⟩))

theorem move_frame (now : Nat) (mark : Option Nat) (o : Outline P) :
    (o.move now mark).restDelay = o.restDelay ∧ (o.move now mark).fadeDelay = o.fadeDelay ∧
      (o.move now mark).pos = o.pos := by
  unfold Outline.move
  split
  · exact ⟨rfl, rfl, rfl⟩
  · split <;> exact ⟨rfl, rfl, rfl⟩

theorem move_mark (now : Nat) (mark : Option Nat) (o : Outline P) :
    (o.move now mark).mark = mark := by
  unfold Outline.move
  split
  next same => exact same.symm
  next => split <;> rfl

theorem Sound.move_shows (s : o.Sound) : (o.move now mark).Shows n ↔
    mark = some n ∧ (o.fading = some n ∨ o.Shows n) := by
  have dark : phaseOn mark ≠ .showing := by cases mark <;> simp [phaseOn]
  obtain ⟨same, e⟩ | ⟨k, back, fading, -, -, e⟩ | ⟨k, shown, other, fading, e⟩ |
    ⟨-, other, dark', e⟩ := s.move_cases now mark <;> rw [e]
  · have apart := s.apart
    grind [Shows]
  · grind [Shows]
  · grind [Shows]
  · grind [Shows]

theorem Sound.move_fades (s : o.Sound) : (o.move now mark).Fades n due ↔
    mark ≠ some n ∧ ((o.Shows n ∧ due = now + o.fadeDelay) ∨ o.Fades n due) := by
  have showing := s.showing
  have apart := s.apart
  obtain ⟨same, e⟩ | ⟨k, back, fading, -, -, e⟩ | ⟨k, shown, other, fading, e⟩ |
    ⟨-, other, dark', e⟩ := s.move_cases now mark <;> rw [e]
  · grind [Shows, Fades]
  · grind [Shows, Fades]
  · grind [Shows, Fades]
  · grind [Shows, Fades]

theorem Sound.move_rests (s : o.Sound) : (o.move now mark).Rests n due ↔
    mark = some n ∧
      ((o.mark ≠ some n ∧ o.fading ≠ some n ∧ due = now + o.restDelay) ∨ o.Rests n due) := by
  obtain ⟨same, e⟩ | ⟨k, back, fading, here, -, e⟩ | ⟨k, shown, other, fading, e⟩ |
    ⟨elsewhere, other, -, e⟩ := s.move_cases now mark <;> rw [e]
  · grind [Rests]
  · grind [Rests]
  · cases mark <;> grind [Rests, Shows]
  · cases mark <;> grind [Rests]

theorem rested_iff : o.restDue.any (· ≤ limit) = true ↔ o.Rested limit := by
  unfold Rested
  cases o.restDue <;> simp

/-- Time lets the tooltip be shown, or one that fades be gone, or nothing. -/
theorem wait_cases (limit : Nat) (o : Outline P) :
    (o.Rested limit ∧ o.wait limit =
      { o with phase := .showing, restDue := none, fading := none, fadeDue := none }) ∨
    (¬ o.Rested limit ∧ (∃ due, o.fadeDue = some due ∧ due ≤ limit) ∧
      o.wait limit = { o with fading := none, fadeDue := none }) ∨
    (¬ o.Rested limit ∧ (∀ due, o.fadeDue = some due → limit < due) ∧ o.wait limit = o) := by
  unfold Outline.wait
  by_cases rested : o.Rested limit
  · exact .inl ⟨rested, if_pos (rested_iff.mpr rested)⟩
  · rw [if_neg (mt rested_iff.mp rested)]
    cases fade : o.fadeDue with
    | none => exact .inr (.inr ⟨rested, nofun, rfl⟩)
    | some due =>
      by_cases gone : due ≤ limit
      · exact .inr (.inl ⟨rested, ⟨due, rfl, gone⟩, if_pos (by simpa using gone)⟩)
      · refine .inr (.inr ⟨rested, ?_, if_neg (by simpa using gone)⟩)
        rintro _ ⟨⟩
        exact Nat.not_le.mp gone

theorem wait_frame (limit : Nat) (o : Outline P) :
    (o.wait limit).restDelay = o.restDelay ∧ (o.wait limit).fadeDelay = o.fadeDelay ∧
      (o.wait limit).pos = o.pos := by
  obtain ⟨-, e⟩ | ⟨-, -, e⟩ | ⟨-, -, e⟩ := o.wait_cases limit <;> rw [e] <;>
    exact ⟨rfl, rfl, rfl⟩

theorem wait_mark (limit : Nat) (o : Outline P) : (o.wait limit).mark = o.mark := by
  obtain ⟨-, e⟩ | ⟨-, -, e⟩ | ⟨-, -, e⟩ := o.wait_cases limit <;> rw [e]

theorem wait_shows : (o.wait limit).Shows n ↔ (o.Rested limit ∧ o.mark = some n) ∨ o.Shows n := by
  obtain ⟨rested, e⟩ | ⟨rested, -, e⟩ | ⟨rested, -, e⟩ := o.wait_cases limit <;> rw [e] <;>
    simp +contextual [Shows, rested]

theorem wait_fades :
    (o.wait limit).Fades n due ↔ o.Fades n due ∧ ¬ o.Rested limit ∧ limit < due := by
  obtain ⟨rested, e⟩ | ⟨rested, ⟨due, set, gone⟩, e⟩ | ⟨rested, late, e⟩ := o.wait_cases limit <;>
    rw [e]
  · simp [Fades, rested]
  · grind [Fades]
  · grind [Fades]

theorem wait_rests : (o.wait limit).Rests n due ↔ o.Rests n due ∧ limit < due := by
  have undue : o.Rests n due → ¬ o.Rested limit → limit < due := fun rests undue =>
    Nat.not_le.mp (mt rests.rested.mpr undue)
  obtain ⟨rested, e⟩ | ⟨rested, -, e⟩ | ⟨rested, -, e⟩ := o.wait_cases limit <;> rw [e]
  · constructor
    · rintro ⟨-, ⟨⟩⟩
    · rintro ⟨rests, late⟩
      exact absurd (rests.rested.mp rested) (Nat.not_le.mpr late)
  · exact ⟨fun rests => ⟨rests, undue rests rested⟩, And.left⟩
  · exact ⟨fun rests => ⟨rests, undue rests rested⟩, And.left⟩

theorem revoke_frame (k : Nat) (o : Outline P) :
    (o.revoke k).restDelay = o.restDelay ∧ (o.revoke k).fadeDelay = o.fadeDelay ∧
      (o.revoke k).pos = o.pos := by
  unfold Outline.revoke
  split <;> exact ⟨rfl, rfl, rfl⟩

theorem revoke_mark : (o.revoke k).mark = some n ↔ o.mark = some n ∧ k ≠ n := by
  grind [Outline.revoke]

theorem revoke_shows : (o.revoke k).Shows n ↔ o.Shows n ∧ k ≠ n := by
  grind [Outline.revoke, Shows]

theorem revoke_fades : (o.revoke k).Fades n due ↔ o.Fades n due := by
  grind [Outline.revoke, Fades]

theorem revoke_rests : (o.revoke k).Rests n due ↔ o.Rests n due ∧ k ≠ n := by
  grind [Outline.revoke, Rests]

end Outline
end LiveLint
