import LiveLint.Value

/-! # Entries of dictionaries

A key is looked up where it stands, and putting a value changes what is found under its key and
nothing else. Whatever entries are made with `put` have each key once. -/

namespace LiveLint.Entries

theorem find?_eq_none {key : String} {entries : Entries} (h : key ∉ keys entries) :
    find? key entries = none := by
  induction entries with
  | nil => rfl
  | cons first rest ih =>
    obtain ⟨other, later⟩ := not_or.mp fun e => h (List.mem_cons.mpr e)
    rw [find?, if_neg (Ne.symm other), ih later]

theorem find?_of_mem {key : String} {v : Value} {entries : Entries}
    (distinct : (keys entries).Nodup) (h : (key, v) ∈ entries) :
    find? key entries = some v := by
  induction entries with
  | nil => cases h
  | cons first rest ih =>
    obtain ⟨fresh, distinct⟩ := List.nodup_cons.mp distinct
    rcases List.mem_cons.mp h with rfl | h
    · exact if_pos rfl
    · have other : first.1 ≠ key := by
        rintro rfl
        exact fresh (List.mem_map.mpr ⟨_, h, rfl⟩)
      rw [find?, if_neg other, ih distinct h]

theorem mem_of_find? {key : String} {v : Value} {entries : Entries}
    (h : find? key entries = some v) : (key, v) ∈ entries := by
  induction entries with
  | nil => cases h
  | cons first rest ih =>
    rw [find?] at h
    split at h
    next same =>
      obtain rfl := Option.some.inj h
      exact same ▸ List.mem_cons_self
    next => exact List.mem_cons_of_mem _ (ih h)

theorem mem_keys_iff {key : String} {entries : Entries} :
    key ∈ keys entries ↔ ∃ v, find? key entries = some v := by
  induction entries with
  | nil => simp [keys, find?]
  | cons first rest ih =>
    rw [keys, List.map_cons, List.mem_cons, find?]
    by_cases here : first.1 = key
    · simp [here]
    · rw [if_neg here, ← ih]
      exact or_iff_right (Ne.symm here)

/-! ## Putting -/

theorem find?_put (key other : String) (v : Value) (entries : Entries) :
    find? key (entries.put other v) = if other = key then some v else find? key entries := by
  induction entries with
  | nil => rfl
  | cons first rest ih =>
    rw [put]
    split
    next here =>
      subst here
      simp only [find?]
      split <;> rfl
    next elsewhere =>
      simp only [find?, ih]
      split
      next same => rw [if_neg fun e => elsewhere (same.trans e.symm)]
      next => rfl

theorem mem_keys_put {key other : String} {v : Value} {entries : Entries} :
    key ∈ keys (entries.put other v) ↔ key = other ∨ key ∈ keys entries := by
  simp only [mem_keys_iff, find?_put]
  by_cases same : other = key
  · simp [same]
  · simp [same, Ne.symm same]

theorem of_mem_put {p : String × Value} {key : String} {v : Value} {entries : Entries}
    (h : p ∈ entries.put key v) : p = (key, v) ∨ p ∈ entries := by
  induction entries with
  | nil => exact .inl (List.mem_singleton.mp h)
  | cons first rest ih =>
    rw [put] at h
    split at h
    next here =>
      rcases List.mem_cons.mp h with rfl | h
      · exact .inl (here ▸ rfl)
      · exact .inr (List.mem_cons_of_mem _ h)
    next =>
      rcases List.mem_cons.mp h with rfl | h
      · exact .inr List.mem_cons_self
      · exact (ih h).imp_right (List.mem_cons_of_mem _)

theorem nodup_put {entries : Entries} (h : (keys entries).Nodup) (key : String) (v : Value) :
    (keys (entries.put key v)).Nodup := by
  induction entries with
  | nil => exact List.nodup_cons.mpr ⟨List.not_mem_nil, List.nodup_nil⟩
  | cons first rest ih =>
    obtain ⟨fresh, distinct⟩ := List.nodup_cons.mp h
    rw [put]
    split
    next => exact List.nodup_cons.mpr ⟨fresh, distinct⟩
    next other =>
      refine List.nodup_cons.mpr ⟨fun member => ?_, ih distinct⟩
      rcases mem_keys_put.mp member with same | member
      · exact other same
      · exact fresh member

/-- Putting what is there already. -/
theorem put_self {key : String} {v : Value} {entries : Entries}
    (h : find? key entries = some v) : entries.put key v = entries := by
  induction entries with
  | nil => cases h
  | cons first rest ih =>
    rw [find?] at h
    rw [put]
    split at h
    next here =>
      obtain rfl := Option.some.inj h
      rw [if_pos here]
    next other => rw [if_neg other, ih h]

/-- A later value takes the place of an earlier one. -/
theorem put_put (key : String) (v w : Value) (entries : Entries) :
    (entries.put key v).put key w = entries.put key w := by
  induction entries with
  | nil => exact if_pos rfl
  | cons first rest ih =>
    by_cases here : first.1 = key
    · simp only [put, here, if_true]
    · simp only [put, here, if_false, ih]

/-- A new key comes last. -/
theorem put_fresh {key : String} {entries : Entries} (h : key ∉ keys entries) (v : Value) :
    entries.put key v = entries ++ [(key, v)] := by
  induction entries with
  | nil => rfl
  | cons first rest ih =>
    obtain ⟨other, later⟩ := not_or.mp fun e => h (List.mem_cons.mpr e)
    rw [put, if_neg (Ne.symm other), ih later]
    rfl

/-! ## Entries of pairs -/

theorem foldl_put_nodup {entries : Entries} (h : (keys entries).Nodup)
    (pairs : List (String × Value)) :
    (keys (pairs.foldl (fun d p => put p.1 p.2 d) entries)).Nodup := by
  induction pairs generalizing entries with
  | nil => exact h
  | cons p rest ih => exact ih (nodup_put h p.1 p.2)

theorem ofPairs_nodup (pairs : List (String × Value)) : (keys (ofPairs pairs)).Nodup :=
  have none : (keys []).Nodup := List.nodup_nil
  foldl_put_nodup none pairs

theorem of_mem_foldl_put {p : String × Value} {entries : Entries}
    {pairs : List (String × Value)}
    (h : p ∈ pairs.foldl (fun d q => put q.1 q.2 d) entries) : p ∈ entries ∨ p ∈ pairs := by
  induction pairs generalizing entries with
  | nil => exact .inl h
  | cons q rest ih =>
    rcases ih h with h | h
    · rcases of_mem_put h with rfl | h
      · exact .inr List.mem_cons_self
      · exact .inl h
    · exact .inr (List.mem_cons_of_mem _ h)

theorem mem_of_mem_ofPairs {p : String × Value} {pairs : List (String × Value)}
    (h : p ∈ ofPairs pairs) : p ∈ pairs :=
  (of_mem_foldl_put h).resolve_left List.not_mem_nil

theorem foldl_put_append {entries : Entries} {pairs : List (String × Value)}
    (h : (keys (entries ++ pairs)).Nodup) :
    pairs.foldl (fun d p => put p.1 p.2 d) entries = entries ++ pairs := by
  induction pairs generalizing entries with
  | nil => exact (List.append_nil entries).symm
  | cons p rest ih =>
    have fresh : p.1 ∉ keys entries := by
      rw [keys, List.map_append] at h
      intro member
      exact (List.nodup_append.mp h).2.2 _ member _ List.mem_cons_self rfl
    have split : entries ++ p :: rest = (entries ++ [p]) ++ rest := by simp
    rw [List.foldl_cons, put_fresh fresh, split]
    exact ih (split ▸ h)

/-- Pairs with distinct keys are entries as they are. -/
theorem ofPairs_eq_self {pairs : List (String × Value)} (h : (keys pairs).Nodup) :
    ofPairs pairs = pairs := foldl_put_append h

end LiveLint.Entries
