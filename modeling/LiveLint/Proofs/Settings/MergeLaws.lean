import LiveLint.Proofs.Settings.Merge
import LiveLint.Proofs.Value.Alike

/-! # Laws of merging

Merging the same defaults twice is merging them once. What is merged of values of files is again
such a value, no deeper than the deeper of the two, and the order of its keys makes no difference.
Each law is proved along the defaults: what a merge finds under a key has only to do with what is
there and what the defaults have under that key. -/

namespace LiveLint.Settings

/-! ## Merging twice -/

/-- Every default is there, and merging it would change nothing. -/
def Saturated (entries : Entries) (defaults : List (String × Value)) : Prop :=
  ∀ p ∈ defaults, ∃ v, Entries.find? p.1 entries = some v ∧ mergeValue v p.2 = v

theorem mergeEntries_saturated {entries : Entries} {defaults : List (String × Value)}
    (h : Saturated entries defaults) : mergeEntries entries defaults = entries := by
  induction defaults with
  | nil => rfl
  | cons first rest ih =>
    obtain ⟨⟨v, found, same⟩, later⟩ := List.forall_mem_cons.mp h
    rw [mergeEntries_cons, found, Option.map_some, Option.getD_some, same, Entries.put_self found]
    exact ih later

/-- A default that is merged where it was merged before, or with itself, changes nothing. -/
def IsSettled (fallback : Value) : Prop :=
  mergeValue fallback fallback = fallback ∧
    ∀ current, mergeValue (mergeValue current fallback) fallback = mergeValue current fallback

theorem isSettled_of_not_isDict {fallback : Value} (h : fallback.isDict = false) :
    IsSettled fallback :=
  ⟨mergeValue_default_of_not_isDict h, fun current => by
    rw [mergeValue_default_of_not_isDict h, mergeValue_default_of_not_isDict h]⟩

theorem saturated_mergeEntries {defaults : Entries} (distinct : (Entries.keys defaults).Nodup)
    (settled : ∀ p ∈ defaults, IsSettled p.2) (entries : Entries) :
    Saturated (mergeEntries entries defaults) defaults := by
  intro p member
  have default := Entries.find?_of_mem distinct member
  rw [find?_mergeEntries distinct, default]
  cases Entries.find? p.1 entries with
  | none => exact ⟨p.2, rfl, (settled p member).1⟩
  | some current => exact ⟨mergeValue current p.2, rfl, (settled p member).2 current⟩

theorem isSettled {fallback : Value} (h : fallback.IsJson) : IsSettled fallback := by
  induction h with
  | null | bool _ | int _ | float _ | text _ | list _ _ => exact isSettled_of_not_isDict rfl
  | @dict defaults distinct _ ih =>
    constructor
    · have saturated : Saturated defaults defaults := fun p member =>
        ⟨p.2, Entries.find?_of_mem distinct member, (ih p member).1⟩
      rw [mergeValue_dict, mergeEntries_saturated saturated]
    · intro current
      obtain ⟨entries, rfl⟩ | plain := isDict_cases current
      · rw [mergeValue_dict, mergeValue_dict,
          mergeEntries_saturated (saturated_mergeEntries distinct ih entries)]
      · rw [mergeValue_of_not_isDict plain, mergeValue_of_not_isDict plain]

/-- **Merging defaults twice is merging them once.** -/
theorem mergeEntries_mergeEntries {defaults : Entries} (h : (Value.dict defaults).IsJson)
    (entries : Entries) :
    mergeEntries (mergeEntries entries defaults) defaults = mergeEntries entries defaults := by
  have twice := (isSettled h).2 (.dict entries)
  simpa only [mergeValue_dict, Value.dict.injEq] using twice

/-! ## What merging keeps -/

theorem nodup_mergeEntries {entries : Entries} (h : (Entries.keys entries).Nodup)
    (defaults : List (String × Value)) : (Entries.keys (mergeEntries entries defaults)).Nodup := by
  induction defaults generalizing entries with
  | nil => exact h
  | cons first rest ih =>
    rw [mergeEntries_cons]
    exact ih (Entries.nodup_put h _ _)

/-- An entry of a merge comes from what was there, from the defaults, or from both. -/
theorem of_mem_mergeEntries {entries defaults : Entries} (distinct : (Entries.keys entries).Nodup)
    (distinct' : (Entries.keys defaults).Nodup) {p : String × Value}
    (h : p ∈ mergeEntries entries defaults) :
    p ∈ entries ∨ p ∈ defaults ∨
      ∃ current fallback, (p.1, current) ∈ entries ∧ (p.1, fallback) ∈ defaults ∧
        mergeValue current fallback = p.2 := by
  have found := Entries.find?_of_mem (nodup_mergeEntries distinct defaults) h
  rw [find?_mergeEntries distinct'] at found
  cases there : Entries.find? p.1 entries with
  | none =>
    cases default : Entries.find? p.1 defaults with
    | none => rw [there, default] at found; cases found
    | some fallback =>
      rw [there, default] at found
      obtain rfl := Option.some.inj found
      exact .inr (.inl (Entries.mem_of_find? default))
  | some current =>
    cases default : Entries.find? p.1 defaults with
    | none =>
      rw [there, default] at found
      obtain rfl := Option.some.inj found
      exact .inl (Entries.mem_of_find? there)
    | some fallback =>
      rw [there, default] at found
      exact .inr (.inr ⟨current, fallback, Entries.mem_of_find? there,
        Entries.mem_of_find? default, Option.some.inj found⟩)

theorem isJson_mergeValue {current fallback : Value} (hc : current.IsJson)
    (hf : fallback.IsJson) : (mergeValue current fallback).IsJson := by
  induction hf generalizing current with
  | null | bool _ | int _ | float _ | text _ | list _ _ =>
    rw [mergeValue_default_of_not_isDict rfl]
    exact hc
  | @dict defaults distinct' json' ih =>
    obtain ⟨entries, rfl⟩ | plain := isDict_cases current
    · obtain ⟨distinct, json⟩ := hc.of_dict
      rw [mergeValue_dict]
      refine .dict (nodup_mergeEntries distinct defaults) fun p member => ?_
      obtain there | default | ⟨current, fallback, there, default, merged⟩ :=
        of_mem_mergeEntries distinct distinct' member
      · exact json p there
      · exact json' p default
      · rw [← merged]
        exact ih (p.1, fallback) default (json (p.1, current) there)
    · rw [mergeValue_of_not_isDict plain]
      exact hc

theorem isJson_mergeEntries {entries defaults : Entries} (h : (Value.dict entries).IsJson)
    (h' : (Value.dict defaults).IsJson) : (Value.dict (mergeEntries entries defaults)).IsJson := by
  rw [← mergeValue_dict]
  exact isJson_mergeValue h h'

theorem depth_mergeValue_le {current fallback : Value} (hc : current.IsJson)
    (hf : fallback.IsJson) {n : Nat} (current_le : current.depth ≤ n)
    (fallback_le : fallback.depth ≤ n) : (mergeValue current fallback).depth ≤ n := by
  induction hf generalizing current n with
  | null | bool _ | int _ | float _ | text _ | list _ _ =>
    rw [mergeValue_default_of_not_isDict rfl]
    exact current_le
  | @dict defaults distinct' _ ih =>
    obtain ⟨entries, rfl⟩ | plain := isDict_cases current
    · obtain ⟨distinct, json⟩ := hc.of_dict
      rw [Value.depth] at current_le fallback_le
      obtain ⟨n, rfl⟩ : ∃ k, n = k + 1 := ⟨n - 1, by omega⟩
      have current_le := Value.depthOfEntries_le_iff.mp (Nat.le_of_succ_le_succ current_le)
      have fallback_le := Value.depthOfEntries_le_iff.mp (Nat.le_of_succ_le_succ fallback_le)
      rw [mergeValue_dict, Value.depth]
      refine Nat.succ_le_succ (Value.depthOfEntries_le_iff.mpr fun p member => ?_)
      obtain there | default | ⟨current, fallback, there, default, merged⟩ :=
        of_mem_mergeEntries distinct distinct' member
      · exact current_le p there
      · exact fallback_le p default
      · rw [← merged]
        exact ih (p.1, fallback) default (json (p.1, current) there) (current_le _ there)
          (fallback_le _ default)
    · rw [mergeValue_of_not_isDict plain]
      exact current_le

/-! ## The order of keys -/

theorem mem_keys_mergeEntries {entries defaults : Entries}
    (distinct : (Entries.keys defaults).Nodup) {key : String} :
    key ∈ Entries.keys (mergeEntries entries defaults) ↔
      key ∈ Entries.keys entries ∨ key ∈ Entries.keys defaults := by
  simp only [Entries.mem_keys_iff, find?_mergeEntries distinct]
  cases Entries.find? key entries <;> cases Entries.find? key defaults <;> simp [mergedAt]

/-- Under a key, a merge of what is alike is alike. -/
theorem alike_mergedAt {x? y? default? : Option Value}
    (both : (∃ v, x? = some v) ↔ ∃ w, y? = some w)
    (alike : ∀ v w, x? = some v → y? = some w → v.Alike w)
    (merge : ∀ fallback, default? = some fallback → ∀ v w, v.Alike w →
      (mergeValue v fallback).Alike (mergeValue w fallback))
    {v w : Value} (found : mergedAt x? default? = some v) (found' : mergedAt y? default? = some w) :
    v.Alike w := by
  cases default? with
  | none =>
    rw [mergedAt_none] at found found'
    exact alike v w found found'
  | some fallback =>
    cases x? with
    | none =>
      cases y? with
      | none =>
        obtain rfl := Option.some.inj (found.symm.trans found')
        exact .refl _
      | some w' =>
        obtain ⟨_, absent⟩ := both.mpr ⟨w', rfl⟩
        cases absent
    | some v' =>
      obtain ⟨w', rfl⟩ := both.mp ⟨v', rfl⟩
      obtain rfl := Option.some.inj found
      obtain rfl := Option.some.inj found'
      exact merge fallback rfl v' w' (alike v' w' rfl rfl)

theorem alike_mergeValue {v w fallback : Value} (h : v.Alike w) (hf : fallback.IsJson) :
    (mergeValue v fallback).Alike (mergeValue w fallback) := by
  induction hf generalizing v w with
  | null | bool _ | int _ | float _ | text _ | list _ _ =>
    rw [mergeValue_default_of_not_isDict rfl, mergeValue_default_of_not_isDict rfl]
    exact h
  | @dict defaults distinct _ ih =>
    cases h with
    | refl => exact .refl _
    | list length items =>
      rw [mergeValue_of_not_isDict rfl, mergeValue_of_not_isDict rfl]
      exact .list length items
    | @dict xs ys keys values =>
      rw [mergeValue_dict, mergeValue_dict]
      refine .dict (fun k => ?_) fun k v w found found' => ?_
      · rw [mem_keys_mergeEntries distinct, mem_keys_mergeEntries distinct, keys]
      · rw [find?_mergeEntries distinct] at found found'
        have both := keys k
        rw [Entries.mem_keys_iff, Entries.mem_keys_iff] at both
        refine alike_mergedAt both (values k) (fun fallback default v w alike => ?_) found found'
        exact ih (k, fallback) (Entries.mem_of_find? default) alike

end LiveLint.Settings
