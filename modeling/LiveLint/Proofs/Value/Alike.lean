import LiveLint.Json.Printer
import LiveLint.Number.Reader
import LiveLint.Proofs.Number.Nearest
import LiveLint.Proofs.Value.Entries

/-! # Values of settings files

Files hold values whose dictionaries have each key once, whose binary numbers are of the format and
whose integers can be read again. They are written with their keys in order; the sorted value has
the same depth and is alike, that is the same but for the order of keys. -/

namespace LiveLint

namespace Value

/-- The values that files can hold. -/
inductive IsJson : Value → Prop where
  | null : IsJson null
  | bool (b : Bool) : IsJson (bool b)
  | int {n : Int} (short : (Text.digitsOfNat n.natAbs).length ≤ Number.digitLimit) : IsJson (int n)
  | float {x : Binary64} (double : x.IsDouble) : IsJson (float x)
  | text (s : String) : IsJson (text s)
  | list {items : List Value} (h : ∀ v ∈ items, IsJson v) : IsJson (list items)
  | dict {entries : Entries} (distinct : (Entries.keys entries).Nodup)
      (h : ∀ p ∈ entries, IsJson p.2) : IsJson (dict entries)

theorem IsJson.of_dict {entries : Entries} (h : (Value.dict entries).IsJson) :
    (Entries.keys entries).Nodup ∧ ∀ p ∈ entries, IsJson p.2 := by
  cases h with
  | dict distinct h => exact ⟨distinct, h⟩

/-- The same value, but for the order of keys. -/
inductive Alike : Value → Value → Prop where
  | refl (v : Value) : Alike v v
  | list {xs ys : List Value} (length : xs.length = ys.length)
      (items : ∀ (i : Nat) (v w : Value), xs[i]? = some v → ys[i]? = some w → Alike v w) :
      Alike (list xs) (list ys)
  | dict {xs ys : Entries} (keys : ∀ k, k ∈ Entries.keys xs ↔ k ∈ Entries.keys ys)
      (values : ∀ (k : String) (v w : Value), Entries.find? k xs = some v →
        Entries.find? k ys = some w → Alike v w) :
      Alike (dict xs) (dict ys)

mutual

/-- The value with the keys of each dictionary in order. -/
def sorted : Value → Value
  | list items => list (sortedItems items)
  | dict entries => dict (sortedEntries entries)
  | v => v

def sortedItems : List Value → List Value
  | [] => []
  | v :: rest => sorted v :: sortedItems rest

def sortedEntries : List (String × Value) → List (String × Value)
  | [] => []
  | (k, v) :: rest => Json.insertEntry (k, sorted v) (sortedEntries rest)

end

end Value

/-! ## Sorting by name -/

namespace Json

def sortByName {α : Type} (l : List (String × α)) : List (String × α) := l.foldr insertEntry []

theorem insertEntry_perm {α : Type} (e : String × α) (l : List (String × α)) :
    (insertEntry e l).Perm (e :: l) := by
  induction l with
  | nil => exact .refl _
  | cons f rest ih =>
    rw [insertEntry]
    split
    · exact .refl _
    · exact (ih.cons f).trans (.swap e f rest)

theorem sortByName_perm {α : Type} (l : List (String × α)) : (sortByName l).Perm l := by
  induction l with
  | nil => exact .refl _
  | cons e rest ih => exact (insertEntry_perm e _).trans (ih.cons e)

/-- Only the names count for the order. -/
theorem insertEntry_map {α β : Type} (f : String × α → β) (e : String × α)
    (l : List (String × α)) :
    insertEntry (e.1, f e) (l.map fun p => (p.1, f p)) =
      (insertEntry e l).map fun p => (p.1, f p) := by
  induction l with
  | nil => rfl
  | cons first rest ih =>
    rw [List.map_cons, insertEntry, insertEntry]
    split
    · rfl
    · rw [ih]
      rfl

end Json

namespace Entries

theorem find?_perm {l l' : Entries} (distinct : (keys l).Nodup) (h : l.Perm l') (key : String) :
    find? key l = find? key l' := by
  have distinct' : (keys l').Nodup := (h.map Prod.fst).nodup_iff.mp distinct
  cases found : find? key l with
  | some v => exact (find?_of_mem distinct' (h.mem_iff.mp (mem_of_find? found))).symm
  | none =>
    have missing : key ∉ keys l' := by
      intro member
      obtain ⟨v, found'⟩ := mem_keys_iff.mp ((h.map Prod.fst).mem_iff.mpr member)
      rw [found] at found'
      cases found'
    exact (find?_eq_none missing).symm

theorem find?_map (f : Value → Value) (key : String) (l : Entries) :
    find? key (l.map fun p => (p.1, f p.2)) = (find? key l).map f := by
  induction l with
  | nil => rfl
  | cons first rest ih =>
    rw [List.map_cons, find?, find?]
    split
    · rfl
    · exact ih

end Entries

namespace Value

theorem sortedItems_eq (items : List Value) : sortedItems items = items.map sorted := by
  induction items with
  | nil => rfl
  | cons v rest ih => rw [sortedItems, ih, List.map_cons]

theorem sortedEntries_eq (entries : Entries) :
    sortedEntries entries = (Json.sortByName entries).map fun p => (p.1, p.2.sorted) := by
  induction entries with
  | nil => rfl
  | cons p rest ih =>
    rw [sortedEntries, ih]
    exact Json.insertEntry_map (fun p => p.2.sorted) p _

theorem find?_sortedEntries {entries : Entries} (distinct : (Entries.keys entries).Nodup)
    (key : String) :
    Entries.find? key (sortedEntries entries) = (Entries.find? key entries).map sorted := by
  have order := Json.sortByName_perm entries
  have distinct' : (Entries.keys (Json.sortByName entries)).Nodup :=
    (order.map Prod.fst).nodup_iff.mpr distinct
  rw [sortedEntries_eq, Entries.find?_map, Entries.find?_perm distinct' order]

theorem keys_sortedEntries (entries : Entries) :
    (Entries.keys (sortedEntries entries)).Perm (Entries.keys entries) := by
  rw [sortedEntries_eq, Entries.keys, List.map_map]
  exact (Json.sortByName_perm entries).map Prod.fst

theorem mem_sortedEntries {entries : Entries} {p : String × Value} :
    p ∈ sortedEntries entries ↔ ∃ v, (p.1, v) ∈ entries ∧ v.sorted = p.2 := by
  rw [sortedEntries_eq, List.mem_map]
  constructor
  · rintro ⟨q, member, rfl⟩
    exact ⟨q.2, (Json.sortByName_perm entries).mem_iff.mp member, rfl⟩
  · rintro ⟨v, member, same⟩
    exact ⟨(p.1, v), (Json.sortByName_perm entries).mem_iff.mpr member, by rw [same]⟩

/-- **Sorting keys makes no other difference.** -/
theorem IsJson.alike_sorted {v : Value} (h : v.IsJson) : v.sorted.Alike v := by
  induction h with
  | null | bool _ | int _ | float _ | text _ => exact .refl _
  | list _ ih =>
    rename_i items h
    rw [sorted, sortedItems_eq]
    refine .list (List.length_map _) fun i v w found found' => ?_
    rw [List.getElem?_map, found'] at found
    obtain rfl := Option.some.inj found
    exact ih w (List.mem_of_getElem? found')
  | dict distinct h ih =>
    rw [sorted]
    refine .dict (fun k => (keys_sortedEntries _).mem_iff) fun k v w found found' => ?_
    rw [find?_sortedEntries distinct, found'] at found
    obtain rfl := Option.some.inj found
    exact ih _ (Entries.mem_of_find? found')

/-! ## Depth -/

theorem depthOfItems_le_iff {items : List Value} {n : Nat} :
    depthOfItems items ≤ n ↔ ∀ v ∈ items, v.depth ≤ n := by
  induction items with
  | nil => simp [depthOfItems]
  | cons v rest ih => rw [depthOfItems, Nat.max_le, ih, List.forall_mem_cons]

theorem depthOfEntries_le_iff {entries : Entries} {n : Nat} :
    depthOfEntries entries ≤ n ↔ ∀ p ∈ entries, p.2.depth ≤ n := by
  induction entries with
  | nil => simp [depthOfEntries]
  | cons p rest ih => rw [depthOfEntries, Nat.max_le, ih, List.forall_mem_cons]

theorem IsJson.depth_sorted {v : Value} (h : v.IsJson) : v.sorted.depth = v.depth := by
  induction h with
  | null | bool _ | int _ | float _ | text _ => rfl
  | list _ ih =>
    rw [Value.sorted, sortedItems_eq, depth, depth]
    refine congrArg (· + 1) (Nat.le_antisymm ?_ ?_)
    · refine depthOfItems_le_iff.mpr fun v member => ?_
      obtain ⟨w, mem, rfl⟩ := List.mem_map.mp member
      rw [ih w mem]
      exact depthOfItems_le_iff.mp (Nat.le_refl _) w mem
    · refine depthOfItems_le_iff.mpr fun v member => ?_
      rw [← ih v member]
      exact depthOfItems_le_iff.mp (Nat.le_refl _) _ (List.mem_map_of_mem member)
  | dict _ _ ih =>
    rw [Value.sorted, depth, depth]
    refine congrArg (· + 1) (Nat.le_antisymm ?_ ?_)
    · refine depthOfEntries_le_iff.mpr fun p member => ?_
      obtain ⟨v, member, same⟩ := mem_sortedEntries.mp member
      rw [← same, ih _ member]
      exact depthOfEntries_le_iff.mp (Nat.le_refl _) _ member
    · refine depthOfEntries_le_iff.mpr fun p member => ?_
      rw [← ih p member]
      exact depthOfEntries_le_iff.mp (Nat.le_refl _) (p.1, p.2.sorted)
        (mem_sortedEntries.mpr ⟨p.2, member, rfl⟩)

end Value
end LiveLint
