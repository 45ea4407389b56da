import LiveLint.Proofs.Json.WellFormed
import LiveLint.Proofs.Settings.Paths

/-! # Values shown as texts

Showing a value goes down level by level, and only so many levels may open on the way. It writes
integers in decimal, and those with too many digits are refused. A value that a reader returned has
neither too many levels nor too long integers; so it can be shown, and its parts can. -/

namespace LiveLint.Value
open Settings

mutual

/-- The text of a value inside others, where so many levels may open and integers have no more
digits than are written. -/
def inline? : Nat → Value → Option String
  | _, int n =>
    if Number.digitLimit < (Text.digitsOfNat n.natAbs).length then none else some (toString n)
  | 0, list _ => none
  | 0, dict _ => none
  | levels + 1, list items =>
    (inlineItems? levels items).map fun texts => "[" ++ joinTexts ", " texts ++ "]"
  | levels + 1, dict entries =>
    (inlineEntries? levels entries).map fun texts => "\x7b" ++ joinTexts ", " texts ++ "\x7d"
  | _, v => some v.inline

def inlineItems? : Nat → List Value → Option (List String)
  | _, [] => some []
  | levels, v :: rest => do
    let first ← inline? levels v
    some (first :: (← inlineItems? levels rest))

def inlineEntries? : Nat → List (String × Value) → Option (List String)
  | _, [] => some []
  | levels, (k, v) :: rest => do
    let first ← inline? levels v
    some ((Text.quoted k ++ ": " ++ first) :: (← inlineEntries? levels rest))

end

/-- The text of a value that stands alone, if it can be written. -/
def display? : Value → Option String
  | text s => some s
  | v => v.inline? Descent.limit

variable {levels : Nat}

theorem inlineItems?_eq {items : List Value}
    (h : ∀ v ∈ items, v.inline? levels = some v.inline) :
    inlineItems? levels items = some (inlineItems items) := by
  induction items with
  | nil => rfl
  | cons v rest ih =>
    obtain ⟨first, others⟩ := List.forall_mem_cons.mp h
    rw [inlineItems?, first, ih others]
    rfl

theorem inlineEntries?_eq {entries : Entries}
    (h : ∀ p ∈ entries, p.2.inline? levels = some p.2.inline) :
    inlineEntries? levels entries = some (inlineEntries entries) := by
  induction entries with
  | nil => rfl
  | cons p rest ih =>
    obtain ⟨first, others⟩ := List.forall_mem_cons.mp h
    rw [inlineEntries?, first, ih others]
    rfl

namespace Fits

variable {v w : Value}

theorem of_list {items : List Value} (h : Fits levels (.list items)) :
    ∃ below, levels = below + 1 ∧ ∀ v ∈ items, Fits below v := by
  obtain ⟨json, depth⟩ := h
  rw [Value.depth] at depth
  obtain ⟨below, rfl⟩ := Nat.exists_eq_add_of_le' (Nat.le_of_add_left_le depth)
  cases json with
  | list json =>
    exact ⟨below, rfl, fun v member =>
      ⟨json v member, depthOfItems_le_iff.mp (Nat.le_of_succ_le_succ depth) v member⟩⟩

theorem of_dict {entries : Entries} (h : Fits levels (.dict entries)) :
    ∃ below, levels = below + 1 ∧ ∀ p ∈ entries, Fits below p.2 := by
  obtain ⟨json, depth⟩ := h
  rw [Value.depth] at depth
  obtain ⟨below, rfl⟩ := Nat.exists_eq_add_of_le' (Nat.le_of_add_left_le depth)
  exact ⟨below, rfl, fun p member =>
    ⟨json.of_dict.2 p member, depthOfEntries_le_iff.mp (Nat.le_of_succ_le_succ depth) p member⟩⟩

/-- **What fits can be shown**, and as if there were no limits. -/
theorem inline?_eq (h : Fits levels v) : v.inline? levels = some v.inline := by
  have json := h.json
  induction json generalizing levels with
  | null | bool _ | float _ | text _ => simp [Value.inline?]
  | int short => rw [Value.inline?, if_neg (Nat.not_lt.mpr short), inline]
  | list _ ih =>
    obtain ⟨below, rfl, parts⟩ := h.of_list
    rw [Value.inline?, inlineItems?_eq fun v member => ih v member (parts v member), inline]
    rfl
  | dict _ _ ih =>
    obtain ⟨below, rfl, parts⟩ := h.of_dict
    rw [Value.inline?, inlineEntries?_eq fun p member => ih p member (parts p member), inline]
    rfl

theorem display?_eq (h : Fits Descent.limit v) : v.display? = some v.display := by
  cases v with
  | text s => rfl
  | null | bool _ | int _ | float _ | list _ | dict _ => exact h.inline?_eq

theorem mono {more : Nat} (h : Fits levels v) (le : levels ≤ more) : Fits more v :=
  ⟨h.json, Nat.le_trans h.depth le⟩

/-- Whatever a path leads to fits as well. -/
theorem followPath {path : List String} (h : Fits levels v) (found : followPath v path = some w) :
    Fits levels w := by
  induction path generalizing levels v with
  | nil =>
    obtain rfl := Option.some.inj found
    exact h
  | cons part rest ih =>
    cases v with
    | dict entries =>
      obtain ⟨below, rfl, parts⟩ := h.of_dict
      rw [followPath_cons] at found
      obtain ⟨next, stands, found⟩ := Option.bind_eq_some_iff.mp found
      exact (ih (parts _ (Entries.mem_of_find? stands)) found).mono (Nat.le_succ below)
    | null | bool _ | int _ | float _ | text _ | list _ => cases found

end Fits
end LiveLint.Value
