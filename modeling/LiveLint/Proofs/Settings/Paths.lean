import LiveLint.Proofs.Value.Entries
import LiveLint.Settings.Tree

/-! # Dotted keys

What is set at a path is found there, paths that part from it lead where they led, and setting a
second time leaves no trace of the first. On the way, a value that is no dictionary gives way to an
empty one; no path led through it before, and none but the path that is set leads into the new one.
All three laws are proved along the path. -/

namespace LiveLint

namespace Text

theorem splitFrom_ne_nil (separator : Char) (part cs : List Char) :
    splitFrom separator part cs ≠ [] := by
  induction cs generalizing part with
  | nil => exact List.cons_ne_nil _ _
  | cons c r ih =>
    rw [splitFrom]
    split
    · exact List.cons_ne_nil _ _
    · exact ih _

end Text

namespace Settings

/-- A key has at least one part, and be it an empty one. -/
theorem pathOf_ne_nil (key : String) : pathOf key ≠ [] :=
  mt List.map_eq_nil_iff.mp (Text.splitFrom_ne_nil _ _ _)

/-! ## Following a path -/

theorem followPath_cons (entries : Entries) (part : String) (rest : List String) :
    followPath (.dict entries) (part :: rest) =
      (Entries.find? part entries).bind (followPath · rest) := by
  rw [followPath]
  cases Entries.find? part entries <;> rfl

theorem followPath_of_not_isDict {v : Value} (h : v.isDict = false) (part : String)
    (rest : List String) : followPath v (part :: rest) = none := by
  cases v with
  | dict _ => cases h
  | null | bool _ | int _ | float _ | text _ | list _ => rfl

theorem followPath_append (v : Value) (path more : List String) :
    followPath v (path ++ more) = (followPath v path).bind (followPath · more) := by
  induction path generalizing v with
  | nil => rfl
  | cons part rest ih =>
    cases v with
    | dict entries =>
      rw [List.cons_append, followPath_cons, followPath_cons, Option.bind_assoc]
      exact congrArg _ (funext ih)
    | null | bool _ | int _ | float _ | text _ | list _ => rfl

/-! ## Setting at a path -/

/-- The dictionary under a key; it is empty where there is none. -/
def dictAt (key : String) (data : Entries) : Entries :=
  match Entries.find? key data with
  | some (.dict entries) => entries
  | _ => []

theorem dictAt_put (key : String) (data inner : Entries) :
    dictAt key (data.put key (.dict inner)) = inner := by
  rw [dictAt, Entries.find?_put, if_pos rfl]

theorem putPath_cons (data : Entries) (value : Value) (part : String) {rest : List String}
    (h : rest ≠ []) :
    putPath data value (part :: rest) =
      data.put part (.dict (putPath (dictAt part data) value rest)) := by
  rw [putPath]
  · rfl
  · exact h

/-- Where there is no dictionary under a key, an empty one makes no difference to longer paths. -/
theorem followPath_dictAt (data : Entries) (part : String) {rest : List String} (h : rest ≠ []) :
    followPath (.dict (dictAt part data)) rest = followPath (.dict data) (part :: rest) := by
  obtain ⟨next, rest, rfl⟩ := List.exists_cons_of_ne_nil h
  rw [followPath_cons data, dictAt]
  cases Entries.find? part data with
  | none => rfl
  | some v => cases v <;> rfl

/-- What is set is found. -/
theorem followPath_putPath_self (data : Entries) (value : Value) {path : List String}
    (h : path ≠ []) : followPath (.dict (putPath data value path)) path = some value := by
  induction path generalizing data with
  | nil => exact absurd rfl h
  | cons part rest ih =>
    cases rest with
    | nil =>
      rw [putPath, followPath_cons, Entries.find?_put, if_pos rfl, Option.bind_some, followPath]
    | cons next rest =>
      have longer := List.cons_ne_nil next rest
      rw [putPath_cons data value part longer, followPath_cons, Entries.find?_put, if_pos rfl,
        Option.bind_some]
      exact ih _ longer

/-- A path that parts from the one that is set leads where it led. -/
theorem followPath_putPath_other (data : Entries) (value : Value) {path other : List String}
    (h : ¬ path <+: other) (h' : ¬ other <+: path) :
    followPath (.dict (putPath data value path)) other = followPath (.dict data) other := by
  induction path generalizing data other with
  | nil => exact absurd List.nil_prefix h
  | cons part rest ih =>
    cases other with
    | nil => exact absurd List.nil_prefix h'
    | cons first more =>
      rw [List.cons_prefix_cons] at h h'
      by_cases same : part = first
      · subst same
        have rest_apart : ¬ rest <+: more := fun inside => h ⟨rfl, inside⟩
        have more_apart : ¬ more <+: rest := fun inside => h' ⟨rfl, inside⟩
        have longer : rest ≠ [] := fun e => rest_apart (e ▸ List.nil_prefix)
        have more_longer : more ≠ [] := fun e => more_apart (e ▸ List.nil_prefix)
        -- Both go on below the same key, where the dictionary may be a new one.
        rw [putPath_cons data value part longer, followPath_cons, Entries.find?_put, if_pos rfl,
          Option.bind_some, ih _ rest_apart more_apart, followPath_dictAt data part more_longer]
      · have kept (v : Value) :
            Entries.find? first (data.put part v) = Entries.find? first data := by
          rw [Entries.find?_put, if_neg same]
        cases rest with
        | nil => rw [putPath, followPath_cons, followPath_cons, kept]
        | cons next rest =>
          rw [putPath_cons data value part (List.cons_ne_nil _ _), followPath_cons,
            followPath_cons, kept]

/-- Setting again is setting once. -/
theorem putPath_putPath (data : Entries) (v w : Value) (path : List String) :
    putPath (putPath data v path) w path = putPath data w path := by
  induction path generalizing data with
  | nil => rfl
  | cons part rest ih =>
    cases rest with
    | nil => simp only [putPath, Entries.put_put]
    | cons next rest =>
      have longer := List.cons_ne_nil next rest
      simp only [putPath_cons _ _ part longer, dictAt_put, ih, Entries.put_put]

/-! ## Dotted keys -/

theorem getAt_eq (data : Entries) {key : String} (h : key ≠ "") (fallback : Value) :
    getAt data key fallback = (followPath (.dict data) (pathOf key)).getD fallback := by
  rw [getAt, if_neg]
  simpa using h

theorem setAt_eq (data : Entries) {key : String} (h : key ≠ "") (value : Value) :
    setAt data key value = .ok (putPath data value (pathOf key)) := by
  rw [setAt, if_neg]
  simpa using h

/-- **A dotted key stands for its path alone.** A value can be set at every key but the empty one.
It is found there, keys whose paths part from its path have the values they had, and a later value
leaves no trace of it. -/
theorem setAt_only_its_path (data : Entries) {key : String} (h : key ≠ "") (value : Value) :
    ∃ data', setAt data key value = .ok data' ∧
      (∀ fallback, getAt data' key fallback = value) ∧
      (∀ other, other ≠ "" → ¬ pathOf key <+: pathOf other → ¬ pathOf other <+: pathOf key →
        ∀ fallback, getAt data' other fallback = getAt data other fallback) ∧
      ∀ later, setAt data' key later = setAt data key later := by
  refine ⟨_, setAt_eq data h value, fun fallback => ?_,
    fun other filled apart apart' fallback => ?_, fun later => ?_⟩
  · rw [getAt_eq _ h, followPath_putPath_self data value (pathOf_ne_nil key), Option.getD_some]
  · rw [getAt_eq _ filled, getAt_eq _ filled, followPath_putPath_other data value apart apart']
  · rw [setAt_eq _ h, setAt_eq _ h, putPath_putPath]

/-- Below a key with a number, a dictionary takes its place; under an empty part, too. -/
theorem setAt_only_its_path_below_number :
    let data : Entries := [("a", .int 1), ("b", .null)]
    let changed : Entries := [("a", .dict [("", .dict [("c", .bool true)])]), ("b", .null)]
    "a..c" ≠ "" ∧ setAt data "a..c" (.bool true) = .ok changed ∧
      getAt changed "a..c" .null = .bool true ∧
      (∀ fallback, getAt changed "a.c" fallback = getAt data "a.c" fallback) ∧
      setAt changed "a..c" .null = setAt data "a..c" .null := by
  intro data changed
  have filled : "a..c" ≠ "" := by decide
  obtain ⟨data', set, found, kept, again⟩ := setAt_only_its_path data filled (.bool true)
  have same : setAt data "a..c" (.bool true) = .ok changed := rfl
  obtain rfl : changed = data' := Except.ok.inj (same.symm.trans set)
  exact ⟨filled, set, found .null, kept "a.c" (by decide) (by decide) (by decide), again .null⟩

end Settings
end LiveLint
