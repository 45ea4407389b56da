import LiveLint.Proofs.Value.Entries
import LiveLint.Settings.Tree

/-! # Merging defaults

A merge is known key by key: where the defaults have a value, dictionaries are merged and anything
else that is there stays. -/

namespace LiveLint.Settings

/-- What a merge holds under a key, from what is there and the default. -/
def mergedAt : Option Value → Option Value → Option Value
  | current?, none => current?
  | none, some fallback => some fallback
  | some current, some fallback => some (mergeValue current fallback)

@[simp] theorem mergedAt_none (current? : Option Value) : mergedAt current? none = current? := by
  cases current? <;> rfl

@[simp] theorem none_mergedAt (default? : Option Value) : mergedAt none default? = default? := by
  cases default? <;> rfl

theorem isDict_cases (v : Value) : (∃ entries, v = .dict entries) ∨ v.isDict = false := by
  cases v with
  | dict entries => exact .inl ⟨entries, rfl⟩
  | null | bool _ | int _ | float _ | text _ | list _ => exact .inr rfl

theorem mergeValue_of_not_isDict {current fallback : Value} (h : current.isDict = false) :
    mergeValue current fallback = current := by
  cases current with
  | dict _ => cases h
  | null | bool _ | int _ | float _ | text _ | list _ =>
    cases fallback <;> rw [mergeValue] <;> intro _ h <;> cases h

theorem mergeValue_default_of_not_isDict {current fallback : Value}
    (h : fallback.isDict = false) : mergeValue current fallback = current := by
  cases fallback with
  | dict _ => cases h
  | null | bool _ | int _ | float _ | text _ | list _ => rfl

@[simp] theorem mergeValue_dict (entries defaults : Entries) :
    mergeValue (.dict entries) (.dict defaults) = .dict (mergeEntries entries defaults) := by
  rw [mergeValue]

theorem mergeEntries_cons (data : Entries) (key : String) (fallback : Value) (rest : Entries) :
    mergeEntries data ((key, fallback) :: rest) =
      mergeEntries
        (data.put key (((Entries.find? key data).map (mergeValue · fallback)).getD fallback))
        rest := by
  rw [mergeEntries]
  cases Entries.find? key data <;> rfl

theorem find?_mergeEntries {defaults : Entries} (distinct : (Entries.keys defaults).Nodup)
    (key : String) (data : Entries) :
    Entries.find? key (mergeEntries data defaults) =
      mergedAt (Entries.find? key data) (Entries.find? key defaults) := by
  induction defaults generalizing data with
  | nil => rfl
  | cons first rest ih =>
    obtain ⟨other, fallback⟩ := first
    obtain ⟨fresh, distinct⟩ := List.nodup_cons.mp distinct
    rw [mergeEntries_cons, ih distinct, Entries.find?_put, Entries.find?]
    by_cases here : other = key
    · subst here
      rw [if_pos rfl, if_pos rfl, Entries.find?_eq_none fresh]
      cases Entries.find? other data <;> rfl
    · rw [if_neg here, if_neg here]

/-- Defaults under other keys than those of the data come behind the data. -/
theorem mergeEntries_eq_append {data defaults : Entries}
    (h : (Entries.keys (data ++ defaults)).Nodup) :
    mergeEntries data defaults = data ++ defaults := by
  induction defaults generalizing data with
  | nil => exact (List.append_nil data).symm
  | cons first rest ih =>
    have fresh : first.1 ∉ Entries.keys data := by
      rw [Entries.keys, List.map_append] at h
      intro member
      exact (List.nodup_append.mp h).2.2 _ member _ List.mem_cons_self rfl
    have split : data ++ first :: rest = (data ++ [first]) ++ rest := by simp
    rw [mergeEntries_cons, Entries.find?_eq_none fresh, Option.map_none, Option.getD_none,
      Entries.put_fresh fresh, split]
    exact ih (split ▸ h)

end LiveLint.Settings
