import LiveLint.Lint.Response
import Mathlib.Data.List.Permutation

/-! # What answers of linters decode to

Whatever an answer holds, each part of it is read or replaced by a default, with one
exception: an infinite number where a line or a column is needed is a fault, and so the whole
answer is lost. All other unusable positions are those of the start of the document or of the
range, and an entry of a list is decoded without regard to the others. -/

namespace LiveLint

namespace Value

/-- An infinite number, of either sign. -/
def IsInfinite (v : Value) : Prop := ∃ negative, v = .float (.infinite negative)

/-- A count can be read from the value, or it is false and stands for the default. -/
def IsCount (v : Value) : Prop := v.isTruthy = true → ∃ n, v.toInt = .ok n

/-- The count that a value stands for. -/
def countOr (n : Int) (v : Value) : Int := if v.isTruthy then v.toInt.toOption.getD n else n

theorem toInt_infinite {v : Value} :
    v.toInt = .error .infinityToInteger ↔ v.IsInfinite := by
  cases v with
  | float x =>
    cases x with
    | nan => simp [toInt, IsInfinite]
    | infinite negative => simp [toInt, IsInfinite, Binary64.truncate?]
    | finite negative m e =>
      obtain ⟨n, read⟩ : ∃ n, toInt (.float (.finite negative m e)) = .ok n := ⟨_, rfl⟩
      simp [read, IsInfinite]
  | text s =>
    simp only [toInt, IsInfinite, reduceCtorEq, exists_false, iff_false]
    split <;> simp
  | null | bool _ | int _ | list _ | dict _ => simp [toInt, IsInfinite]

theorem IsInfinite.isTruthy {v : Value} (h : v.IsInfinite) : v.isTruthy = true := by
  obtain ⟨negative, rfl⟩ := h
  rfl

theorem orElse_assoc (u v w : Value) : u.orElse (v.orElse w) = (u.orElse v).orElse w := by
  unfold orElse
  cases h : u.isTruthy <;> simp [h]

end Value

/-- Where an error is, if it says so. -/
def LintError.position? : LintError → Option Position
  | .parse p _ | .transformation p _ => some p
  | .transport _ | .other _ => none

/-- Findings, or an error of a kind that there is. -/
def Outcome.IsKnown : Outcome → Prop
  | .failure (.other _) => False
  | _ => True

theorem LintError.isKnown_of_position {e : LintError} {p : Position} (h : e.position? = some p) :
    (Outcome.failure e).IsKnown := by
  cases e with
  | parse _ _ | transformation _ _ => exact trivial
  | transport _ | other _ => cases h

namespace Response

/-! ## Counts -/

theorem readCount_infinite {v : Value} (h : v.IsInfinite) (w : Value) :
    readCount (v.orElse w) = .error .infinityToInteger := by
  rw [Value.orElse, if_pos h.isTruthy, readCount, Value.toInt_infinite.mpr h]

theorem readCount_isCount {v : Value} (h : v.IsCount) (n : Int) :
    readCount (v.orElse (.int n)) = .ok (some (v.countOr n)) := by
  unfold Value.orElse Value.countOr
  split
  next truthy =>
    obtain ⟨k, read⟩ := h truthy
    rw [readCount, read]
    rfl
  next => rfl

theorem readCount_unusable {v : Value} (infinite : ¬ v.IsInfinite) (h : ¬ v.IsCount) (w : Value) :
    readCount (v.orElse w) = .ok none := by
  obtain ⟨truthy, unread⟩ := Classical.not_imp.mp h
  rw [Value.orElse, if_pos truthy, readCount]
  cases read : v.toInt with
  | ok n => exact absurd ⟨n, read⟩ unread
  | error f =>
    have other : f ≠ .infinityToInteger := fun e => infinite (Value.toInt_infinite.mp (e ▸ read))
    cases f <;> first | rfl | exact absurd rfl other

/-! ## Positions -/

/-- The object with the line and the column of a position: its start if it is a range. -/
def place (raw : Value) : Value := if (raw.field "start").isDict then raw.field "start" else raw

def lineOf (raw : Value) : Value := (place raw).field "line"

def columnOf (raw : Value) : Value := ((place raw).field "col").orElse ((place raw).field "column")

/-- An object in which the line and the column are counts or left out. -/
def Usable (raw : Value) : Prop :=
  raw.isDict = true ∧ (lineOf raw).IsCount ∧ (columnOf raw).IsCount

/-- An object whose line is infinite, or whose column is while its line is usable. -/
def Endless (raw : Value) : Prop :=
  raw.isDict = true ∧ ((lineOf raw).IsInfinite ∨ (lineOf raw).IsCount ∧ (columnOf raw).IsInfinite)

/-- The position that a value stands for: what can be read from it, with counts below one taken
for one, and else the default. -/
inductive Places (default : Position) (raw : Value) : Position → Prop where
  | read (h : Usable raw) : Places default raw
      (Position.clamp ⟨(lineOf raw).countOr default.line, (columnOf raw).countOr default.column⟩)
  | default (h : ¬ Usable raw) : Places default raw default

theorem decodePoint_dict {raw : Value} (h : raw.isDict = true) (fallback : Position) :
    decodePoint raw fallback = (do
      match ← readCount ((lineOf raw).orElse (.int fallback.line)) with
      | none => .ok fallback
      | some line =>
        match ← readCount ((columnOf raw).orElse (.int fallback.column)) with
        | none => .ok fallback
        | some column => .ok (Position.clamp ⟨line, column⟩)) := by
  rw [columnOf, ← Value.orElse_assoc, decodePoint, h]
  rfl

theorem decodePoint_endless {raw : Value} (h : Endless raw) (fallback : Position) :
    decodePoint raw fallback = .error .infinityToInteger := by
  obtain ⟨dict, line | ⟨line, column⟩⟩ := h
  · rw [decodePoint_dict dict, readCount_infinite line]
    rfl
  · rw [decodePoint_dict dict, readCount_isCount line, readCount_infinite column]
    rfl

theorem decodePoint_usable {raw : Value} (h : Usable raw) (fallback : Position) :
    decodePoint raw fallback = .ok (Position.clamp
      ⟨(lineOf raw).countOr fallback.line, (columnOf raw).countOr fallback.column⟩) := by
  obtain ⟨dict, line, column⟩ := h
  rw [decodePoint_dict dict, readCount_isCount line, readCount_isCount column]
  rfl

theorem decodePoint_unusable {raw : Value} (h : ¬ Usable raw) (finite : ¬ Endless raw)
    (fallback : Position) : decodePoint raw fallback = .ok fallback := by
  cases dict : raw.isDict with
  | false => rw [decodePoint, dict]; rfl
  | true =>
    rw [decodePoint_dict dict]
    by_cases line : (lineOf raw).IsCount
    · have column : ¬ (columnOf raw).IsCount := fun column => h ⟨dict, line, column⟩
      rw [readCount_isCount line,
        readCount_unusable (fun infinite => finite ⟨dict, .inr ⟨line, infinite⟩⟩) column]
      rfl
    · rw [readCount_unusable (fun infinite => finite ⟨dict, .inl infinite⟩) line]
      rfl

/-- A position is read or replaced, unless it is endless. -/
theorem decodePoint_places {raw : Value} (h : ¬ Endless raw) (fallback : Position) :
    ∃ p, Places fallback raw p ∧ decodePoint raw fallback = .ok p := by
  by_cases usable : Usable raw
  · exact ⟨_, .read usable, decodePoint_usable usable fallback⟩
  · exact ⟨_, .default usable, decodePoint_unusable usable h fallback⟩

/-! ## Entries -/

def startOf (raw : Value) : Value := (raw.field "position").field "start"

def endOf (raw : Value) : Value := (raw.field "position").field "end"

/-- Only entries that are objects with a position object count. -/
def HasPosition (raw : Value) : Prop := (raw.field "position").isDict = true

def EndlessEntry (raw : Value) : Prop :=
  HasPosition raw ∧ (Endless (startOf raw) ∨ Endless (endOf raw))

/-- The finding of an entry, if it has one. -/
def finding? (raw : Value) : Option Finding := (decodeFinding raw).toOption.join

/-- The finding of an entry, apart from its range. -/
def describe (raw : Value) (range : TextRange) : Finding where
  range := range
  severity := Severity.parse (raw.field "severity") .warning
  message := decodeMessage raw
  details := (raw.field "explanation_long").displayOrEmpty
  suggestion := (raw.field "solution").displayOrEmpty
  kind := kindName (raw.field "kind")

theorem decodeFinding_skipped {raw : Value} (h : ¬ HasPosition raw) :
    decodeFinding raw = .ok none := by
  rw [decodeFinding, Bool.eq_false_iff.mpr h]
  rfl

theorem decodeFinding_position {raw : Value} (h : HasPosition raw) :
    decodeFinding raw = (do
      let start ← decodePoint (startOf raw) origin
      let stop ← decodePoint (endOf raw) start
      .ok (some (describe raw ⟨start, stop⟩).normalize)) := by
  rw [decodeFinding, show (raw.field "position").isDict = true from h]
  rfl

theorem decodeFinding_endless {raw : Value} (h : EndlessEntry raw) :
    decodeFinding raw = .error .infinityToInteger := by
  obtain ⟨position, endless⟩ := h
  rw [decodeFinding_position position]
  by_cases start : Endless (startOf raw)
  · rw [decodePoint_endless start]
    rfl
  · obtain ⟨p, -, e⟩ := decodePoint_places start origin
    rw [e]
    show (decodePoint (endOf raw) p >>= _) = _
    rw [decodePoint_endless (endless.resolve_left start)]
    rfl

/-- An entry with a position is a finding, unless it is endless. Its range goes from where its
start is, by default the start of the document, to where its end is, by default its start. -/
theorem decodeFinding_places {raw : Value} (position : HasPosition raw)
    (h : ¬ EndlessEntry raw) :
    ∃ p q, Places origin (startOf raw) p ∧ Places p (endOf raw) q ∧
      decodeFinding raw = .ok (some (describe raw ⟨p, q⟩).normalize) := by
  obtain ⟨p, start, e⟩ := decodePoint_places (fun endless => h ⟨position, .inl endless⟩) origin
  obtain ⟨q, stop, e'⟩ := decodePoint_places (fun endless => h ⟨position, .inr endless⟩) p
  refine ⟨p, q, start, stop, ?_⟩
  rw [decodeFinding_position position, e]
  show (decodePoint (endOf raw) p >>= _) = _
  rw [e']
  rfl

theorem decodeFinding_finding? {raw : Value} (h : ¬ EndlessEntry raw) :
    decodeFinding raw = .ok (finding? raw) := by
  by_cases position : HasPosition raw
  · obtain ⟨p, q, -, -, e⟩ := decodeFinding_places position h
    rw [finding?, e]
    rfl
  · rw [finding?, decodeFinding_skipped position]
    rfl

theorem decodeFindings_cons (raw : Value) (rest : List Value) :
    decodeFindings (raw :: rest) = (do
      let first ← decodeFinding raw
      let others ← decodeFindings rest
      .ok (first.toList ++ others)) := rfl

/-- Without endless entries, each entry is decoded on its own. -/
theorem decodeFindings_eq {items : List Value} (h : ∀ raw ∈ items, ¬ EndlessEntry raw) :
    decodeFindings items = .ok (items.filterMap finding?) := by
  induction items with
  | nil => rfl
  | cons raw rest ih =>
    obtain ⟨first, others⟩ := List.forall_mem_cons.mp h
    rw [decodeFindings_cons, decodeFinding_finding? first, ih others]
    cases e : finding? raw with
    | none => rw [List.filterMap_cons_none e]; rfl
    | some a => rw [List.filterMap_cons_some e]; rfl

theorem decodeFindings_endless {items : List Value} (h : ∃ raw ∈ items, EndlessEntry raw) :
    decodeFindings items = .error .infinityToInteger := by
  induction items with
  | nil => obtain ⟨raw, hr, -⟩ := h; cases hr
  | cons raw rest ih =>
    rw [decodeFindings_cons]
    by_cases first : EndlessEntry raw
    · rw [decodeFinding_endless first]
      rfl
    · obtain ⟨later, hl, endless⟩ := h
      have later : ∃ raw ∈ rest, EndlessEntry raw := by
        rcases List.mem_cons.mp hl with rfl | hl
        · exact absurd endless first
        · exact ⟨later, hl, endless⟩
      rw [decodeFinding_finding? first, ih later]
      rfl

/-! ## Answers -/

/-- An answer with a list, alone or in its envelope. -/
def Lists (payload : Value) (items : List Value) : Prop :=
  ∃ body, unwrap payload = .dict body ∧ Entries.find? "Lints" body = some (.list items)

/-- An answer with an error of a known kind, alone or in its envelope. -/
def Reports (payload error : Value) : Prop :=
  ((error.field "parseerror").isDict = true ∨ (error.field "transformationerror").isDict = true) ∧
  ∃ body, unwrap payload = .dict body ∧ Entries.find? "Lints" body = none ∧
    Entries.find? "Error" body = some error

/-- An answer in no form that is known. -/
def Unknown (payload : Value) : Prop :=
  (∀ items, ¬ Lists payload items) ∧ ∀ error, ¬ Reports payload error

/-- Where an error says that it is. -/
def errorPosition (error : Value) : Value :=
  if (error.field "parseerror").isDict then (error.field "parseerror").field "position"
  else (error.field "transformationerror").field "position"

/-- An answer in which an infinite number stands where a line or a column is needed. -/
def EndlessAnswer (payload : Value) : Prop :=
  (∃ items, Lists payload items ∧ ∃ raw ∈ items, EndlessEntry raw) ∨
    ∃ error, Reports payload error ∧ Endless (errorPosition error)

/-- What a syntax error says was expected. -/
def expectedOf (parse : Value) : List String :=
  match parse.field "expected" with
  | .list items => items.map (·.display)
  | _ => []

def causeOf (transformation : Value) : String :=
  ((transformation.field "cause").orElse
    ((transformation.field "message").orElse (.text "Transformation failed."))).display

theorem decodeError_parse {error : Value} (h : (error.field "parseerror").isDict = true) :
    decodeError error =
      (decodePoint ((error.field "parseerror").field "position") origin).map fun p =>
        some (.parse p (expectedOf (error.field "parseerror"))) := by
  rw [decodeError, if_pos h]
  cases decodePoint ((error.field "parseerror").field "position") origin <;> rfl

theorem decodeError_transformation {error : Value}
    (parse : ¬ (error.field "parseerror").isDict = true)
    (h : (error.field "transformationerror").isDict = true) :
    decodeError error =
      (decodePoint ((error.field "transformationerror").field "position") origin).map fun p =>
        some (.transformation p (causeOf (error.field "transformationerror"))) := by
  rw [decodeError, if_neg parse, if_pos h]
  cases decodePoint ((error.field "transformationerror").field "position") origin <;> rfl

theorem decodeError_unknown {error : Value}
    (h : ¬ ((error.field "parseerror").isDict = true ∨
      (error.field "transformationerror").isDict = true)) : decodeError error = .ok none := by
  obtain ⟨parse, transformation⟩ := not_or.mp h
  rw [decodeError, if_neg parse, if_neg transformation]

/-- An error of a known kind is at its position. -/
theorem decodeError_known {error : Value}
    (h : (error.field "parseerror").isDict = true ∨
      (error.field "transformationerror").isDict = true) :
    ∃ located : Position → LintError, (∀ p, (located p).position? = some p) ∧
      decodeError error =
        (decodePoint (errorPosition error) origin).map fun p => some (located p) := by
  unfold errorPosition
  by_cases parse : (error.field "parseerror").isDict = true
  · rw [if_pos parse]
    exact ⟨_, fun _ => rfl, decodeError_parse parse⟩
  · rw [if_neg parse]
    exact ⟨_, fun _ => rfl, decodeError_transformation parse (h.resolve_left parse)⟩

theorem decode_lists {payload : Value} {items : List Value} (h : Lists payload items) :
    decode payload = (decodeFindings items).map .success := by
  obtain ⟨body, unwrapped, found⟩ := h
  rw [decode, unwrapped]
  simp only [found]

theorem decode_reports {payload error : Value} (h : Reports payload error) :
    ∃ located : Position → LintError, (∀ p, (located p).position? = some p) ∧
      decode payload =
        (decodePoint (errorPosition error) origin).map fun p => .failure (located p) := by
  obtain ⟨known, body, unwrapped, noList, found⟩ := h
  obtain ⟨located, position, e⟩ := decodeError_known known
  refine ⟨located, position, ?_⟩
  rw [decode, unwrapped]
  simp only [noList, found, e]
  cases decodePoint (errorPosition error) origin <;> rfl

theorem decode_unknown {payload : Value} (h : Unknown payload) :
    ∃ detail, decode payload = .ok (failed detail) := by
  obtain ⟨noList, noError⟩ := h
  unfold decode
  split
  next body unwrapped =>
    split
    next items found => exact absurd ⟨body, unwrapped, found⟩ (noList items)
    next => exact ⟨_, rfl⟩
    next error none found =>
      rw [decodeError_unknown fun known => noError error ⟨known, body, unwrapped, none, found⟩]
      exact ⟨_, rfl⟩
    next => exact ⟨_, rfl⟩
  next => exact ⟨_, rfl⟩

/-- All that an answer can be. -/
theorem answer_cases (payload : Value) :
    (∃ items, Lists payload items) ∨ (∃ error, Reports payload error) ∨ Unknown payload := by
  by_cases lists : ∃ items, Lists payload items
  · exact .inl lists
  by_cases reports : ∃ error, Reports payload error
  · exact .inr (.inl reports)
  · exact .inr (.inr ⟨not_exists.mp lists, not_exists.mp reports⟩)

theorem decode_listed {payload : Value} {items : List Value} (h : Lists payload items)
    (finite : ∀ raw ∈ items, ¬ EndlessEntry raw) :
    decode payload = .ok (.success (items.filterMap finding?)) := by
  rw [decode_lists h, decodeFindings_eq finite]
  rfl

theorem decode_reported {payload error : Value} (h : Reports payload error)
    (finite : ¬ Endless (errorPosition error)) :
    ∃ e p, Places origin (errorPosition error) p ∧ e.position? = some p ∧
      decode payload = .ok (.failure e) := by
  obtain ⟨located, position, decoded⟩ := decode_reports h
  obtain ⟨p, places, read⟩ := decodePoint_places finite origin
  refine ⟨located p, p, places, position p, ?_⟩
  rw [decoded, read]
  rfl

theorem decode_endless {payload : Value} (h : EndlessAnswer payload) :
    decode payload = .error .infinityToInteger := by
  obtain ⟨items, lists, endless⟩ | ⟨error, reports, endless⟩ := h
  · rw [decode_lists lists, decodeFindings_endless endless]
    rfl
  · obtain ⟨located, -, decoded⟩ := decode_reports reports
    rw [decoded, decodePoint_endless endless]
    rfl

theorem decode_finite {payload : Value} (h : ¬ EndlessAnswer payload) :
    ∃ o, decode payload = .ok o := by
  obtain ⟨items, lists⟩ | ⟨error, reports⟩ | unknown := answer_cases payload
  · exact ⟨_, decode_listed lists fun raw hr endless =>
      h (.inl ⟨items, lists, raw, hr, endless⟩)⟩
  · obtain ⟨e, -, -, -, decoded⟩ := decode_reported reports fun endless =>
      h (.inr ⟨error, reports, endless⟩)
    exact ⟨_, decoded⟩
  · obtain ⟨detail, decoded⟩ := decode_unknown unknown
    exact ⟨_, decoded⟩

theorem decode_error_iff {payload : Value} {f : Fault} :
    decode payload = .error f ↔ EndlessAnswer payload ∧ f = .infinityToInteger := by
  constructor
  · intro fault
    by_cases endless : EndlessAnswer payload
    · rw [decode_endless endless] at fault
      exact ⟨endless, (Except.error.inj fault).symm⟩
    · obtain ⟨o, decoded⟩ := decode_finite endless
      rw [decoded] at fault
      cases fault
  · rintro ⟨endless, rfl⟩
    exact decode_endless endless

/-- What is decoded is an outcome like any other. -/
theorem decode_known {payload : Value} {o : Outcome} (h : decode payload = .ok o) : o.IsKnown := by
  obtain ⟨items, lists⟩ | ⟨error, reports⟩ | unknown := answer_cases payload
  · rw [decode_lists lists] at h
    cases read : decodeFindings items <;> rw [read] at h <;> cases h
    exact trivial
  · obtain ⟨located, position, decoded⟩ := decode_reports reports
    rw [decoded] at h
    cases read : decodePoint (errorPosition error) origin <;> rw [read] at h <;> cases h
    exact LintError.isKnown_of_position (position _)
  · obtain ⟨detail, decoded⟩ := decode_unknown unknown
    rw [decoded] at h
    cases h
    exact trivial

/-! ## Texts -/

theorem decodeText_blank {text : String} (h : Text.trim text = "") :
    ∃ detail, decodeText text = .ok (failed detail) := by
  rw [decodeText, h]
  exact ⟨_, rfl⟩

theorem isEmpty_of_read {s : String} {r : Except Json.Error Value} (h : Json.read s = r)
    (other : Json.read "" ≠ r) : s.isEmpty = false := by
  rw [Bool.eq_false_iff, ne_eq, String.isEmpty_iff]
  rintro rfl
  exact other h

theorem decodeText_read {text : String} {payload : Value}
    (h : Json.read (Text.trim text) = .ok payload) : decodeText text = decode payload := by
  have filled := isEmpty_of_read h (by intro blank; cases blank)
  simp only [decodeText, filled, h, Bool.false_eq_true, if_false]

theorem decodeText_tooDeep {text : String} {during : Descent}
    (h : Json.read (Text.trim text) = .error (.tooDeep during)) :
    decodeText text = .error (.tooDeep during) := by
  have filled := isEmpty_of_read h (by intro blank; cases blank)
  simp only [decodeText, filled, h, Bool.false_eq_true, if_false]

theorem decodeText_unread {text : String} {e : Json.Error}
    (h : Json.read (Text.trim text) = .error e) (other : ∀ during, e ≠ .tooDeep during) :
    ∃ detail, decodeText text = .ok (failed detail) := by
  unfold decodeText
  dsimp only
  split
  · exact ⟨_, rfl⟩
  · rw [h]
    match e, other with
    | .tooDeep during, other => exact absurd rfl (other during)
    | .at _ _ _ _, _ | .tooLong _, _ => exact ⟨_, rfl⟩

theorem decodeText_known {text : String} {o : Outcome} (h : decodeText text = .ok o) :
    o.IsKnown := by
  unfold decodeText at h
  dsimp only at h
  split at h
  · cases h
    exact trivial
  split at h
  · cases h
  · cases h
    exact trivial
  · exact decode_known h

/-- A text is a fault only if it goes too deep, or is an endless answer. -/
theorem decodeText_error_iff {text : String} {f : Fault} :
    decodeText text = .error f ↔
      (∃ during, Json.read (Text.trim text) = .error (.tooDeep during) ∧ f = .tooDeep during) ∨
        ∃ payload, Json.read (Text.trim text) = .ok payload ∧ EndlessAnswer payload ∧
          f = .infinityToInteger := by
  constructor
  · intro fault
    cases read : Json.read (Text.trim text) with
    | ok payload =>
      rw [decodeText_read read] at fault
      exact .inr ⟨payload, rfl, decode_error_iff.mp fault⟩
    | error e =>
      by_cases deep : ∃ during, e = .tooDeep during
      · obtain ⟨during, rfl⟩ := deep
        rw [decodeText_tooDeep read] at fault
        exact .inl ⟨during, rfl, (Except.error.inj fault).symm⟩
      · obtain ⟨detail, decoded⟩ := decodeText_unread read (not_exists.mp deep)
        rw [decoded] at fault
        cases fault
  · rintro (⟨during, read, rfl⟩ | ⟨payload, read, endless, rfl⟩)
    · exact decodeText_tooDeep read
    · rw [decodeText_read read, decode_endless endless]

/-- **A text is answered unless it goes too deep or is endless.** These two are the only faults,
and each arises exactly there. A text that is blank, is no JSON or has no known form is a failure
of the transport. In a list without endless entries, each entry with a position is a finding,
whatever the others are, and where its start or its end cannot be used the default stands in for
it; so it is with the position of an error. -/
theorem answered_unless_endless (text : String) :
    let read := Json.read (Text.trim text)
    (∀ f, decodeText text = .error f ↔
      (∃ during, read = .error (.tooDeep during) ∧ f = .tooDeep during) ∨
        ∃ payload, read = .ok payload ∧ EndlessAnswer payload ∧ f = .infinityToInteger) ∧
    (Text.trim text = "" ∨ (∃ e, read = .error e ∧ ∀ during, e ≠ .tooDeep during) ∨
        (∃ payload, read = .ok payload ∧ Unknown payload) →
      ∃ detail, decodeText text = .ok (.failure (.transport detail))) ∧
    ∀ payload, read = .ok payload →
      (∀ items, Lists payload items → (∀ raw ∈ items, ¬ EndlessEntry raw) →
        decodeText text = .ok (.success (items.filterMap finding?)) ∧
        ∀ raw ∈ items, HasPosition raw → ∃ a p q, finding? raw = some a ∧
          Places origin (startOf raw) p ∧ Places p (endOf raw) q ∧
          a.range = (TextRange.mk p q).normalize) ∧
      ∀ error, Reports payload error → ¬ Endless (errorPosition error) →
        ∃ e p, decodeText text = .ok (.failure e) ∧ e.position? = some p ∧
          Places origin (errorPosition error) p := by
  intro read
  refine ⟨fun f => decodeText_error_iff, ?_, fun payload parsed => ⟨fun items lists finite => ?_,
    fun error reports finite => ?_⟩⟩
  · rintro (blank | ⟨e, unread, other⟩ | ⟨payload, parsed, unknown⟩)
    · exact decodeText_blank blank
    · exact decodeText_unread unread other
    · rw [decodeText_read parsed]
      exact decode_unknown unknown
  · rw [decodeText_read parsed]
    refine ⟨decode_listed lists finite, fun raw hr position => ?_⟩
    obtain ⟨p, q, start, stop, decoded⟩ := decodeFinding_places position (finite raw hr)
    exact ⟨_, p, q, by rw [finding?, decoded]; rfl, start, stop, rfl⟩
  · rw [decodeText_read parsed]
    obtain ⟨e, p, places, position, decoded⟩ := decode_reported reports finite
    exact ⟨e, p, decoded, position, places⟩

set_option maxRecDepth 4000 in
/-- An entry whose line is no number is found at the start of the document, and the one after it
is left out because it is no object. -/
theorem answered_with_default :
    let text :=
      "\x7b\"Lints\":[\x7b\"position\":\x7b\"start\":\x7b\"line\":NaN\x7d\x7d\x7d,null]\x7d"
    let start := Value.dict [("line", .float .nan)]
    let items := [.dict [("position", .dict [("start", start)])], .null]
    (Json.read (Text.trim text) = .ok (.dict [("Lints", .list items)]) ∧
      Lists (.dict [("Lints", .list items)]) items ∧ ∀ raw ∈ items, ¬ EndlessEntry raw) ∧
    decodeText text = .ok (.success
      [⟨.point origin, .warning, "Lint issue", "", "", ""⟩]) := by
  intro text start items
  have document :
      Json.readDocument (Text.trim text).toList = .ok (.dict [("Lints", .list items)]) := by
    simp only [text, items, start]
    cbv
  have read : Json.read (Text.trim text) = .ok (.dict [("Lints", .list items)]) := by
    rw [Json.read, document]
    rfl
  have lists : Lists (.dict [("Lints", .list items)]) items := ⟨_, rfl, rfl⟩
  have finite : ∀ raw ∈ items, ¬ EndlessEntry raw := by
    intro raw hr endless
    have fault : decodeFinding raw = .error .infinityToInteger := decodeFinding_endless endless
    rcases List.mem_cons.mp hr with rfl | hr
    · cases fault
    · obtain rfl := List.mem_singleton.mp hr
      cases fault
  obtain ⟨-, -, parsed⟩ := answered_unless_endless text
  obtain ⟨decoded, -⟩ := (parsed _ read).1 items lists finite
  have found : items.filterMap finding? =
      [⟨.point origin, .warning, "Lint issue", "", "", ""⟩] := by
    decide +kernel
  exact ⟨⟨read, lists, finite⟩, found ▸ decoded⟩

/-- The fault that a result is. -/
def fault? (result : Except Fault Outcome) : Option Fault :=
  match result with
  | .error f => some f
  | .ok _ => none

theorem fault?_eq_some {result : Except Fault Outcome} {f : Fault} :
    fault? result = some f ↔ result = .error f := by
  cases result <;> simp [fault?]

/-- An infinite line loses the whole answer, together with an entry that has nothing to do with
it. -/
theorem infinite_line_loses_answer :
    decodeText ("\x7b\"Lints\":[\x7b\"position\":\x7b\"start\":\x7b\"line\":1e999\x7d\x7d\x7d," ++
      "\x7b\"position\":\x7b\x7d,\"explanation\":\"lost\"\x7d]\x7d") = .error .infinityToInteger :=
  fault?_eq_some.mp (by decide +kernel)

end Response
end LiveLint
