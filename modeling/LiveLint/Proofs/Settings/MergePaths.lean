import LiveLint.Proofs.Settings.Merge
import LiveLint.Proofs.Settings.Paths
import LiveLint.Proofs.Value.Equality

/-! # Merging, path by path

A merge is known at every path from what the data and the defaults have there. Unless the path is
blocked in the data, by a value on the way that is no dictionary, the merge has at the path what
comes of merging what both have there; this is proved by induction on the path. The keys of a merge
are those of the data in their order, with those that only the defaults have behind them. -/

namespace LiveLint.Settings

/-! ## The keys of a merge -/

theorem keys_put_of_mem {key : String} {entries : Entries} (h : key ∈ Entries.keys entries)
    (v : Value) : Entries.keys (entries.put key v) = Entries.keys entries := by
  induction entries with
  | nil => cases h
  | cons first rest ih =>
    by_cases here : first.1 = key
    · simp only [Entries.put, here, if_true, Entries.keys, List.map_cons]
    · have later : key ∈ Entries.keys rest :=
        (List.mem_cons.mp h).resolve_left (Ne.symm here)
      simp only [Entries.put, here, if_false]
      exact congrArg (first.1 :: ·) (ih later)

theorem keys_put_fresh {key : String} {entries : Entries} (h : key ∉ Entries.keys entries)
    (v : Value) : Entries.keys (entries.put key v) = Entries.keys entries ++ [key] := by
  rw [Entries.put_fresh h, Entries.keys, List.map_append]
  rfl

/-- First the keys of the data, then those that only the defaults have, each in their order. -/
theorem keys_mergeEntries {defaults : Entries} (distinct : (Entries.keys defaults).Nodup)
    (data : Entries) :
    Entries.keys (mergeEntries data defaults) =
      Entries.keys data ++ (Entries.keys defaults).filter (· ∉ Entries.keys data) := by
  induction defaults generalizing data with
  | nil => exact (List.append_nil _).symm
  | cons first rest ih =>
    obtain ⟨key, fallback⟩ := first
    obtain ⟨fresh, distinct⟩ := List.nodup_cons.mp distinct
    rw [mergeEntries_cons, ih distinct]
    by_cases here : key ∈ Entries.keys data
    · have skipped : (Entries.keys ((key, fallback) :: rest)).filter (· ∉ Entries.keys data) =
          (Entries.keys rest).filter (· ∉ Entries.keys data) :=
        List.filter_cons_of_neg (by simpa using here)
      rw [keys_put_of_mem here, skipped]
    · have taken : (Entries.keys ((key, fallback) :: rest)).filter (· ∉ Entries.keys data) =
          key :: (Entries.keys rest).filter (· ∉ Entries.keys data) :=
        List.filter_cons_of_pos (by simpa using here)
      -- The key that was added is none of the later ones.
      have others : (Entries.keys rest).filter (· ∉ Entries.keys data ++ [key]) =
          (Entries.keys rest).filter (· ∉ Entries.keys data) := by
        refine List.filter_congr fun other member => ?_
        have different : other ≠ key := by
          intro e
          exact fresh (e ▸ member)
        simp [different]
      rw [keys_put_fresh here, others, taken, List.append_assoc]
      rfl

/-! ## Blocked paths -/

/-- On the way, a value is no dictionary. -/
def Blocked (v : Value) (path : List String) : Prop :=
  ∃ way w, way <+: path ∧ way ≠ path ∧ followPath v way = some w ∧ w.isDict = false

theorem not_blocked_nil (v : Value) : ¬ Blocked v [] := by
  intro blocked
  obtain ⟨way, w, inside, shorter, -⟩ := blocked
  exact shorter (List.prefix_nil.mp inside)

/-- Nothing is found at a blocked path. -/
theorem followPath_of_blocked {v : Value} {path : List String} (h : Blocked v path) :
    followPath v path = none := by
  obtain ⟨way, w, ⟨more, rfl⟩, shorter, reached, plain⟩ := h
  cases more with
  | nil => exact absurd (List.append_nil way).symm shorter
  | cons part rest =>
    rw [followPath_append, reached, Option.bind_some, followPath_of_not_isDict plain]

theorem blocked_of_not_isDict {v : Value} (h : v.isDict = false) (part : String)
    (rest : List String) : Blocked v (part :: rest) :=
  ⟨[], v, List.nil_prefix, (List.cons_ne_nil _ _).symm, followPath.eq_1 v, h⟩

theorem blocked_cons {entries : Entries} {part : String} {rest : List String} :
    Blocked (.dict entries) (part :: rest) ↔
      ∃ v, Entries.find? part entries = some v ∧ Blocked v rest := by
  constructor
  · intro blocked
    obtain ⟨way, w, inside, shorter, reached, plain⟩ := blocked
    cases way with
    | nil =>
      rw [followPath] at reached
      cases reached
      cases plain
    | cons first way =>
      obtain ⟨rfl, behind⟩ := List.cons_prefix_cons.mp inside
      rw [followPath_cons] at reached
      obtain ⟨v, found, reached⟩ := Option.bind_eq_some_iff.mp reached
      exact ⟨v, found, way, w, behind, mt (congrArg _) shorter, reached, plain⟩
  · intro blocked
    obtain ⟨v, found, way, w, inside, shorter, reached, plain⟩ := blocked
    refine ⟨part :: way, w, List.cons_prefix_cons.mpr ⟨rfl, inside⟩, ?_, ?_, plain⟩
    · intro e
      exact shorter (List.cons.inj e).2
    · rw [followPath_cons, found, Option.bind_some, reached]

/-! ## Following a path through a merge -/

/-- At a path that is not blocked, the merge is the merge of what both have there. -/
theorem followPath_mergeValue {path : List String} {v fallback : Value} (keyed : fallback.IsKeyed)
    (free : ¬ Blocked v path) :
    followPath (mergeValue v fallback) path =
      mergedAt (followPath v path) (followPath fallback path) := by
  induction path generalizing v fallback with
  | nil => simp only [followPath, mergedAt]
  | cons part rest ih =>
    obtain ⟨entries, rfl⟩ | plain := isDict_cases v
    · obtain ⟨defaults, rfl⟩ | plain := isDict_cases fallback
      · obtain ⟨distinct, keyed⟩ := keyed.of_dict
        rw [mergeValue_dict, followPath_cons, followPath_cons, followPath_cons,
          find?_mergeEntries distinct]
        cases found : Entries.find? part entries with
        | none =>
          rw [none_mergedAt, Option.bind_none, none_mergedAt]
        | some w =>
          have free : ¬ Blocked w rest := fun blocked =>
            free (blocked_cons.mpr ⟨w, found, blocked⟩)
          cases default : Entries.find? part defaults with
          | none => simp
          | some f => exact ih (keyed (part, f) (Entries.mem_of_find? default)) free
      · rw [mergeValue_default_of_not_isDict plain, followPath_of_not_isDict plain, mergedAt_none]
    · exact absurd (blocked_of_not_isDict plain part rest) free

/-- At a blocked path there is nothing, also in the merge. -/
theorem followPath_mergeValue_of_blocked {path : List String} {v fallback : Value}
    (keyed : fallback.IsKeyed) (h : Blocked v path) :
    followPath (mergeValue v fallback) path = none := by
  induction path generalizing v fallback with
  | nil => exact absurd h (not_blocked_nil v)
  | cons part rest ih =>
    obtain ⟨entries, rfl⟩ | plain := isDict_cases v
    · obtain ⟨defaults, rfl⟩ | plain := isDict_cases fallback
      · obtain ⟨w, found, blocked⟩ := blocked_cons.mp h
        obtain ⟨distinct, keyed⟩ := keyed.of_dict
        rw [mergeValue_dict, followPath_cons, find?_mergeEntries distinct, found]
        cases default : Entries.find? part defaults with
        | none => exact followPath_of_blocked blocked
        | some f => exact ih (keyed (part, f) (Entries.mem_of_find? default)) blocked
      · rw [mergeValue_default_of_not_isDict plain, followPath_of_blocked h]
    · rw [mergeValue_of_not_isDict plain, followPath_of_not_isDict plain]

/-- What is found in a value has each key once, too. -/
theorem isKeyed_followPath {path : List String} {v w : Value} (keyed : v.IsKeyed)
    (found : followPath v path = some w) : w.IsKeyed := by
  induction path generalizing v with
  | nil =>
    obtain rfl := Option.some.inj found
    exact keyed
  | cons part rest ih =>
    obtain ⟨entries, rfl⟩ | plain := isDict_cases v
    · rw [followPath_cons] at found
      obtain ⟨inner, here, found⟩ := Option.bind_eq_some_iff.mp found
      exact ih (keyed.of_dict.2 (part, inner) (Entries.mem_of_find? here)) found
    · rw [followPath_of_not_isDict plain] at found
      cases found

section

variable {data defaults : Entries} {path : List String}

theorem followPath_merge_free (keyed : (Value.dict defaults).IsKeyed)
    (free : ¬ Blocked (.dict data) path) :
    followPath (.dict (mergeDefaults data defaults)) path =
      mergedAt (followPath (.dict data) path) (followPath (.dict defaults) path) := by
  rw [mergeDefaults, ← mergeValue_dict]
  exact followPath_mergeValue keyed free

/-- Where the data have something, it is merged with what the defaults have there. -/
theorem followPath_merge_of_found (keyed : (Value.dict defaults).IsKeyed) {v : Value}
    (found : followPath (.dict data) path = some v) :
    followPath (.dict (mergeDefaults data defaults)) path =
      mergedAt (some v) (followPath (.dict defaults) path) := by
  have free : ¬ Blocked (.dict data) path := by
    intro blocked
    rw [followPath_of_blocked blocked] at found
    cases found
  rw [followPath_merge_free keyed free, found]

/-- What stands against no dictionary, or is none, stays as it is. -/
theorem mergedAt_eq_self {v : Value} {default? : Option Value}
    (h : v.isDict = false ∨ ∀ entries, default? ≠ some (.dict entries)) :
    mergedAt (some v) default? = some v := by
  cases default? with
  | none => rfl
  | some fallback =>
    refine congrArg some ?_
    rcases h with plain | other
    · exact mergeValue_of_not_isDict plain
    · obtain ⟨entries, rfl⟩ | plain := isDict_cases fallback
      · exact absurd rfl (other entries)
      · exact mergeValue_default_of_not_isDict plain

end

/-- **A merge, path by path.** What the data have at a path stays as it is, unless both have a
dictionary there: then these are merged, and the keys of the defaults come behind those of the data.
Where the data have nothing, the merge has what the defaults have, unless the path is blocked. -/
theorem followPath_mergeDefaults {data defaults : Entries} (keyed : (Value.dict defaults).IsKeyed)
    (path : List String) :
    let before := followPath (.dict data) path
    let default? := followPath (.dict defaults) path
    let after := followPath (.dict (mergeDefaults data defaults)) path
    (∀ v, before = some v →
      v.isDict = false ∨ (∀ inner, default? ≠ some (.dict inner)) → after = some v) ∧
    (∀ entries inner, before = some (.dict entries) → default? = some (.dict inner) →
      ∃ merged, after = some (.dict merged) ∧
        Entries.keys merged = Entries.keys entries ++
          (Entries.keys inner).filter (· ∉ Entries.keys entries)) ∧
    (before = none → ¬ Blocked (.dict data) path → after = default?) ∧
    (Blocked (.dict data) path → before = none ∧ after = none) := by
  intro before default? after
  refine ⟨fun v found kept => ?_, fun entries inner found default => ?_, fun missing free => ?_,
    fun blocked => ⟨followPath_of_blocked blocked, ?_⟩⟩
  · exact (followPath_merge_of_found keyed found).trans (mergedAt_eq_self kept)
  · have distinct : (Entries.keys inner).Nodup := (isKeyed_followPath keyed default).of_dict.1
    refine ⟨mergeEntries entries inner, ?_, keys_mergeEntries distinct entries⟩
    rw [← mergeValue_dict]
    exact (followPath_merge_of_found keyed found).trans (congrArg _ default)
  · have both := followPath_merge_free keyed free
    have nothing : followPath (.dict data) path = none := missing
    rwa [nothing, none_mergedAt] at both
  · have merged := followPath_mergeValue_of_blocked keyed blocked
    rwa [mergeValue_dict] at merged

/-- A null stays, a number keeps a section of defaults away, and keys are added behind. -/
theorem followPath_mergeDefaults_mixed :
    let data : Entries := [("a", .null), ("b", .dict [("x", .int 1)]), ("c", .int 5)]
    let defaults : Entries := [("a", .dict []), ("b", .dict [("y", .int 2), ("x", .int 0)]),
      ("c", .dict [("d", .int 1)]), ("e", .dict [("f", .bool true)])]
    let merged := mergeDefaults data defaults
    (Value.dict defaults).IsKeyed ∧
      followPath (.dict merged) ["a"] = some .null ∧
      (∃ entries, followPath (.dict merged) ["b"] = some (.dict entries) ∧
        Entries.keys entries = ["x", "y"]) ∧
      followPath (.dict merged) ["c", "d"] = none ∧
      followPath (.dict merged) ["e", "f"] = some (.bool true) := by
  intro data defaults merged
  have distinct : (Entries.keys defaults).Nodup := by
    show ["a", "b", "c", "e"].Nodup
    decide
  have inner : (Value.dict [("y", .int 2), ("x", .int 0)]).IsKeyed := by
    refine .dict ?_ (List.forall_mem_cons.mpr ⟨.int 2, List.forall_mem_singleton.mpr (.int 0)⟩)
    show ["y", "x"].Nodup
    decide
  have single (key : String) {v : Value} (keyed : v.IsKeyed) : (Value.dict [(key, v)]).IsKeyed :=
    .dict (List.nodup_cons.mpr ⟨List.not_mem_nil, List.nodup_nil⟩)
      (List.forall_mem_singleton.mpr keyed)
  have keyed : (Value.dict defaults).IsKeyed := by
    refine .dict distinct (List.forall_mem_cons.mpr ⟨?_, List.forall_mem_cons.mpr ⟨inner, ?_⟩⟩)
    · exact .dict List.nodup_nil (List.forall_mem_nil _)
    · exact List.forall_mem_cons.mpr ⟨single "d" (.int 1),
        List.forall_mem_singleton.mpr (single "f" (.bool true))⟩
  have law (path : List String) := @followPath_mergeDefaults data defaults keyed path
  have free : ¬ Blocked (.dict data) ["e", "f"] := by
    intro blocked
    obtain ⟨v, found, -⟩ := blocked_cons.mp blocked
    cases found
  refine ⟨keyed, (law ["a"]).1 .null rfl (.inl rfl), ?_, ?_, (law ["e", "f"]).2.2.1 rfl free⟩
  · exact (law ["b"]).2.1 [("x", .int 1)] [("y", .int 2), ("x", .int 0)] rfl rfl
  · have blocked : Blocked (.dict data) ["c", "d"] :=
      blocked_cons.mpr ⟨.int 5, rfl, blocked_of_not_isDict rfl "d" []⟩
    exact ((law ["c", "d"]).2.2.2 blocked).2

end LiveLint.Settings
