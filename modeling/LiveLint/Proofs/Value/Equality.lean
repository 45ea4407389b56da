import LiveLint.Proofs.Value.Entries

/-! # Equality of values

A value whose dictionaries have each key once equals itself, unless a number in it is NaN: all else
is compared part by part, and dictionaries are compared key by key. -/

namespace LiveLint

theorem Binary64.same_self {x : Binary64} (h : x ≠ .nan) : x.same x := by
  cases x with
  | nan => exact absurd rfl h
  | infinite s => simp [same, compare?]
  | finite s m e => simp [same, compare?]

namespace Value

/-- The dictionaries have each key once, and the binary numbers are such numbers. -/
inductive Built (number : Binary64 → Prop) : Value → Prop where
  | null : Built number null
  | bool (b : Bool) : Built number (bool b)
  | int (n : Int) : Built number (int n)
  | float {x : Binary64} (h : number x) : Built number (float x)
  | text (s : String) : Built number (text s)
  | list {items : List Value} (h : ∀ v ∈ items, Built number v) : Built number (list items)
  | dict {entries : Entries} (distinct : (Entries.keys entries).Nodup)
      (h : ∀ p ∈ entries, Built number p.2) : Built number (dict entries)

/-- The dictionaries have each key once, whatever the numbers. -/
def IsKeyed (v : Value) : Prop := v.Built fun _ => True

/-- Besides, no number is NaN. -/
def IsDefinite (v : Value) : Prop := v.Built (· ≠ .nan)

theorem Built.of_dict {number : Binary64 → Prop} {entries : Entries}
    (h : (Value.dict entries).Built number) :
    (Entries.keys entries).Nodup ∧ ∀ p ∈ entries, p.2.Built number := by
  cases h with
  | dict distinct h => exact ⟨distinct, h⟩

theorem sameItems_self {items : List Value} (h : ∀ v ∈ items, v.same v) :
    sameItems items items := by
  induction items with
  | nil => rfl
  | cons v rest ih =>
    obtain ⟨first, later⟩ := List.forall_mem_cons.mp h
    rw [sameItems, first, Bool.true_and]
    exact ih later

/-- Entries that are among distinct ones, and equal themselves, are all found and equal. -/
theorem sameEntries_of_subset {chosen whole : Entries} (distinct : (Entries.keys whole).Nodup)
    (inside : ∀ p ∈ chosen, p ∈ whole) (h : ∀ p ∈ chosen, p.2.same p.2) :
    sameEntries chosen whole := by
  induction chosen with
  | nil => rfl
  | cons first rest ih =>
    obtain ⟨here, rest_inside⟩ := List.forall_mem_cons.mp inside
    obtain ⟨same, later⟩ := List.forall_mem_cons.mp h
    rw [sameEntries, Entries.find?_of_mem distinct here]
    simp only [same, Bool.true_and]
    exact ih rest_inside later

/-- **What holds no NaN equals itself.** -/
theorem IsDefinite.same_self {v : Value} (h : v.IsDefinite) : v.same v := by
  unfold IsDefinite at h
  induction h with
  | null => rfl
  | bool b => simp [same, sameAtom, asInt?]
  | int n => simp [same, sameAtom, asInt?]
  | float h => exact Binary64.same_self h
  | text s => simp [same, sameAtom]
  | list _ ih => exact sameItems_self ih
  | dict distinct _ ih =>
    have entries := sameEntries_of_subset distinct (fun p member => member) ih
    simp only [same, entries, beq_self_eq_true, Bool.and_self]

end Value
end LiveLint
