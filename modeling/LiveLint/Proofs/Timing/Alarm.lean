import LiveLint.Timing.Alarm

/-! # Which alarm rings

The alarm that rings is one of those that are set, and none of them is due before it. -/

namespace LiveLint

namespace Alarm

variable {ι : Type} {alarms : List (ι × Option Alarm)} {label : ι} {a : Alarm}

theorem mem_of_earliest? (h : earliest? alarms = some (label, a)) : (label, some a) ∈ alarms := by
  induction alarms with
  | nil => cases h
  | cons first rest ih =>
    obtain ⟨other, alarm⟩ := first
    cases alarm with
    | none => exact List.mem_cons_of_mem _ (ih h)
    | some b =>
      simp only [earliest?] at h
      cases later : earliest? rest with
      | none =>
        rw [later] at h
        obtain ⟨rfl, rfl⟩ := Prod.mk.inj (Option.some.inj h)
        exact List.mem_cons_self
      | some found =>
        rw [later] at h
        dsimp only at h
        split at h
        · exact List.mem_cons_of_mem _ (ih (later.trans h))
        · obtain ⟨rfl, rfl⟩ := Prod.mk.inj (Option.some.inj h)
          exact List.mem_cons_self

theorem le_of_not_before {b : Alarm} (h : ¬ a.before b = true) : b.due ≤ a.due := by
  simp only [before, Bool.or_eq_true, decide_eq_true_eq, Bool.and_eq_true, beq_iff_eq] at h
  omega

theorem due_le_of_before {b : Alarm} (h : a.before b = true) : a.due ≤ b.due := by
  simp only [before, Bool.or_eq_true, decide_eq_true_eq, Bool.and_eq_true, beq_iff_eq] at h
  omega

/-- Some alarm rings first if any is set, and no alarm is due before it. -/
theorem earliest?_le {other : ι} {b : Alarm} (h : (other, some b) ∈ alarms) :
    ∃ label a, earliest? alarms = some (label, a) ∧ a.due ≤ b.due := by
  induction alarms with
  | nil => cases h
  | cons first rest ih =>
    obtain ⟨label, alarm⟩ := first
    cases alarm with
    | none =>
      rcases List.mem_cons.mp h with same | later
      · cases same
      · exact ih later
    | some c =>
      simp only [earliest?]
      rcases List.mem_cons.mp h with same | later
      · obtain ⟨rfl, rfl⟩ : other = label ∧ b = c := by simpa using same
        cases found : earliest? rest with
        | none => exact ⟨_, _, rfl, Nat.le_refl _⟩
        | some found =>
          dsimp only
          split
          next sooner => exact ⟨_, _, rfl, due_le_of_before sooner⟩
          next => exact ⟨_, _, rfl, Nat.le_refl _⟩
      · obtain ⟨label', a, found, le⟩ := ih later
        rw [found]
        dsimp only
        split
        next => exact ⟨_, _, rfl, le⟩
        next later => exact ⟨_, _, rfl, Nat.le_trans (le_of_not_before later) le⟩

/-- An alarm that is due is set. -/
theorem mem_of_due? {limit : Nat} (h : due? limit alarms = some (label, a)) :
    (label, some a) ∈ alarms := mem_of_earliest? (Option.filter_eq_some_iff.mp h).1

/-- No alarm is due before the one that rings. -/
theorem due_le_of_due? {limit : Nat} {other : ι} {b : Alarm}
    (h : due? limit alarms = some (label, a)) (set : (other, some b) ∈ alarms) : a.due ≤ b.due := by
  obtain ⟨_, _, found, le⟩ := earliest?_le set
  rw [(Option.filter_eq_some_iff.mp h).1] at found
  obtain ⟨rfl, rfl⟩ := Prod.mk.inj (Option.some.inj found)
  exact le

theorem le_of_due? {limit : Nat} (h : due? limit alarms = some (label, a)) : a.due ≤ limit := by
  simpa using (Option.filter_eq_some_iff.mp h).2

/-- When no alarm rings, none is due yet. -/
theorem lt_of_due?_eq_none {limit : Nat} {other : ι} {b : Alarm}
    (h : due? limit alarms = none) (set : (other, some b) ∈ alarms) : limit < b.due := by
  obtain ⟨label, a, found, le⟩ := earliest?_le set
  have late := Option.filter_eq_none_iff.mp h (label, a) found
  have late : ¬ a.due ≤ limit := by simpa using late
  omega

end Alarm

end LiveLint
