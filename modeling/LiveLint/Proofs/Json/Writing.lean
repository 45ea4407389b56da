import LiveLint.Json.Printer
import LiveLint.Proofs.Value.Alike

/-! # What can be written

Writing a value to a file stops at an integer with too many digits, and where it has to go down too
many levels. Anything else is written, and so is whatever a file can hold unless it is too deep. -/

namespace LiveLint

/-- Somewhere in a value there is an integer with more digits than are written. -/
inductive Value.HoldsLong : Value → Prop where
  | int {n : Int} (long : Number.digitLimit < (Text.digitsOfNat n.natAbs).length) :
    HoldsLong (int n)
  | list {items : List Value} {v : Value} (member : v ∈ items) (h : HoldsLong v) :
    HoldsLong (list items)
  | dict {entries : Entries} {p : String × Value} (member : p ∈ entries) (h : HoldsLong p.2) :
    HoldsLong (dict entries)

namespace Value

variable {n : Int} {items : List Value} {entries : Entries}

theorem holdsLong_int :
    (int n).HoldsLong ↔ Number.digitLimit < (Text.digitsOfNat n.natAbs).length := by
  constructor
  · intro h
    cases h with
    | int long => exact long
  · exact .int

theorem holdsLong_list : (list items).HoldsLong ↔ ∃ v ∈ items, v.HoldsLong := by
  constructor
  · intro h
    cases h with
    | list member h => exact ⟨_, member, h⟩
  · intro ⟨v, member, h⟩
    exact .list member h

theorem holdsLong_dict : (dict entries).HoldsLong ↔ ∃ p ∈ entries, p.2.HoldsLong := by
  constructor
  · intro h
    cases h with
    | dict member h => exact ⟨_, member, h⟩
  · intro ⟨p, member, h⟩
    exact .dict member h

/-- What a file can hold can be written, if it is not too deep. -/
theorem IsJson.not_holdsLong {v : Value} (h : v.IsJson) : ¬ v.HoldsLong := by
  induction h with
  | null | bool _ | float _ | text _ => nofun
  | int short => exact fun h => absurd (holdsLong_int.mp h) (Nat.not_lt.mpr short)
  | list _ ih =>
    intro h
    obtain ⟨v, member, h⟩ := holdsLong_list.mp h
    exact ih v member h
  | dict _ _ ih =>
    intro h
    obtain ⟨p, member, h⟩ := holdsLong_dict.mp h
    exact ih p member h

end Value

namespace Json
open Value

variable {levels : Nat} {v : Value}

theorem unwritableItem?_eq_none {items : List Value} :
    unwritableItem? levels items = none ↔ ∀ v ∈ items, unwritable? levels v = none := by
  induction items with
  | nil => simp [unwritableItem?]
  | cons v rest ih => rw [unwritableItem?, Option.or_eq_none_iff, ih, List.forall_mem_cons]

theorem unwritableEntries_perm (entries : Entries) :
    (unwritableEntries levels entries).Perm
      (entries.map fun p => (p.1, unwritable? levels p.2)) := by
  induction entries with
  | nil => exact .refl _
  | cons p rest ih => exact (insertEntry_perm _ _).trans (ih.cons _)

theorem findSome?_unwritableEntries {entries : Entries} :
    (unwritableEntries levels entries).findSome? (·.2) = none ↔
      ∀ p ∈ entries, unwritable? levels p.2 = none := by
  simp only [List.findSome?_eq_none_iff, (unwritableEntries_perm entries).mem_iff,
    List.forall_mem_map]

/-- A value without parts is written unless it is an integer that is too long. -/
theorem unwritable?_flat (flat : v.depth = 0) :
    unwritable? levels v = none ↔ v.depth ≤ levels ∧ ¬ v.HoldsLong := by
  cases v with
  | int n => simp [unwritable?, holdsLong_int, depth]
  | list _ | dict _ => cases flat
  | null | bool _ | float _ | text _ =>
    simp only [unwritable?, depth, Nat.zero_le, true_and, true_iff]
    intro h
    cases h

/-- **What can be written.** A value can be written exactly if it goes down at most so many levels
and holds no integer that is too long. -/
theorem unwritable?_eq_none :
    unwritable? levels v = none ↔ v.depth ≤ levels ∧ ¬ v.HoldsLong := by
  induction levels generalizing v with
  | zero =>
    cases v with
    | list items => simp [unwritable?, depth]
    | dict entries => simp [unwritable?, depth]
    | null | bool _ | int _ | float _ | text _ => exact unwritable?_flat rfl
  | succ levels ih =>
    cases v with
    | list items =>
      rw [unwritable?, unwritableItem?_eq_none, depth, Nat.add_le_add_iff_right,
        depthOfItems_le_iff, holdsLong_list]
      simp only [ih, imp_and, forall_and, not_exists, not_and]
    | dict entries =>
      rw [unwritable?, findSome?_unwritableEntries, depth, Nat.add_le_add_iff_right,
        depthOfEntries_le_iff, holdsLong_dict]
      simp only [ih, imp_and, forall_and, not_exists, not_and]
    | null | bool _ | int _ | float _ | text _ => exact unwritable?_flat rfl

end Json
end LiveLint
