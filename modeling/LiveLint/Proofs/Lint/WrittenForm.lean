import LiveLint.Proofs.Lint.NormalForm
import LiveLint.Proofs.Value.Entries
import Mathlib.Data.List.Forall2

/-! # Answers as they are written

Linters write positions, findings and errors as objects, with the fields in whatever order.
Each part of what was written is decoded to what it was written from: a position as a position,
and from these an entry as its finding, a list as its findings and an error as itself. -/

namespace LiveLint

namespace Value

/-- An object with these fields, in any order. -/
def HasFields (v : Value) (fields : Entries) : Prop :=
  ∃ entries, v = .dict entries ∧ entries.Perm fields

section

variable {v w : Value} {fields : Entries} {key : String}

theorem HasFields.isDict (h : v.HasFields fields) : v.isDict = true := by
  obtain ⟨entries, rfl, -⟩ := h
  rfl

theorem HasFields.field (h : v.HasFields fields) (member : (key, w) ∈ fields)
    (distinct : (Entries.keys fields).Nodup) : v.field key = w := by
  obtain ⟨entries, rfl, order⟩ := h
  have distinct : (Entries.keys entries).Nodup := (order.map Prod.fst).nodup_iff.mpr distinct
  show (Entries.find? key entries).getD null = w
  rw [Entries.find?_of_mem distinct (order.mem_iff.mpr member)]
  rfl

theorem HasFields.field_missing (h : v.HasFields fields) (missing : key ∉ Entries.keys fields) :
    v.field key = null := by
  obtain ⟨entries, rfl, order⟩ := h
  show (Entries.find? key entries).getD null = null
  rw [Entries.find?_eq_none fun member => missing ((order.map Prod.fst).mem_iff.mp member)]
  rfl

end

@[simp] theorem field_one (key : String) (v : Value) : (dict [(key, v)]).field key = v := by
  simp [field, Entries.find?]

theorem isTruthy_text {s : String} : (text s).isTruthy = true ↔ s ≠ "" := by
  simp [isTruthy]

@[simp] theorem displayOrEmpty_text (s : String) : (text s).displayOrEmpty = s := by
  unfold displayOrEmpty
  split
  · rfl
  next empty => exact (not_not.mp fun filled => empty (isTruthy_text.mpr filled)).symm

theorem isTruthy_int {n : Int} (h : 1 ≤ n) : (int n).isTruthy = true := by
  simp only [isTruthy, bne_iff_ne]
  omega

theorem countOr_int {n : Int} (h : 1 ≤ n) (default : Int) : (int n).countOr default = n := by
  rw [countOr, if_pos (isTruthy_int h)]
  rfl

theorem isCount_int (n : Int) : (int n).IsCount := fun _ => ⟨n, rfl⟩

end Value

/-! ## What is written -/

def Position.Written (p : Position) (v : Value) : Prop :=
  v.HasFields [("line", .int p.line), ("col", .int p.column)]

def TextRange.Written (r : TextRange) (v : Value) : Prop :=
  ∃ start stop, r.start.Written start ∧ r.stop.Written stop ∧
    v.HasFields [("start", start), ("end", stop)]

def Finding.fields (a : Finding) (position : Value) : Entries := [
  ("position", position), ("explanation", .text a.message), ("explanation_long", .text a.details),
  ("solution", .text a.suggestion), ("severity", .text a.severity.name), ("kind", .text a.kind)]

def Finding.Written (a : Finding) (v : Value) : Prop :=
  ∃ position, a.range.Written position ∧ v.HasFields (a.fields position)

/-- Errors are written under the name of their kind. A linter never writes that it could not be
reached. -/
inductive LintError.Written : LintError → Value → Prop where
  | parse {p : Position} {expected : List String} {position v : Value}
      (place : p.Written position)
      (fields : v.HasFields [("position", position), ("expected", .list (expected.map .text))]) :
      Written (.parse p expected) (.dict [("parseerror", v)])
  | transformation {p : Position} {cause : String} {position v : Value}
      (place : p.Written position)
      (fields : v.HasFields [("position", position), ("cause", .text cause)]) :
      Written (.transformation p cause) (.dict [("transformationerror", v)])

namespace Outcome

/-- Answers outside of an envelope. -/
inductive WrittenPlain : Outcome → Value → Prop where
  | success {xs : List Finding} {items : List Value}
      (entries : List.Forall₂ Finding.Written xs items) :
      WrittenPlain (.success xs) (.dict [("Lints", .list items)])
  | failure {e : LintError} {v : Value} (error : e.Written v) :
      WrittenPlain (.failure e) (.dict [("Error", v)])

def envelope : Outcome → String
  | success _ => "Ok"
  | failure _ => "Err"

/-- Answers alone or in their envelope. -/
inductive Written (o : Outcome) : Value → Prop where
  | plain {v : Value} (answer : o.WrittenPlain v) : Written o v
  | enveloped {v : Value} (answer : o.WrittenPlain v) : Written o (.dict [(o.envelope, v)])

/-- Outcomes that linters tell of: the findings are normal, an error is in the document, and a
failed transformation has a cause. -/
def IsNormal : Outcome → Prop
  | success xs => ∀ a ∈ xs, a.IsNormal
  | failure (.parse p _) => p.InDocument
  | failure (.transformation p cause) => p.InDocument ∧ cause ≠ ""
  | failure (.transport _) | failure (.other _) => False

end Outcome

/-! Whatever linters tell of can be written. -/

theorem Position.exists_written (p : Position) : ∃ v, p.Written v := ⟨_, _, rfl, .refl _⟩

theorem Finding.exists_written (a : Finding) : ∃ v, a.Written v := by
  obtain ⟨start, hstart⟩ := a.range.start.exists_written
  obtain ⟨stop, hstop⟩ := a.range.stop.exists_written
  exact ⟨_, _, ⟨start, stop, hstart, hstop, _, rfl, .refl _⟩, _, rfl, .refl _⟩

theorem Outcome.exists_writtenPlain {o : Outcome} (h : o.IsNormal) : ∃ v, o.WrittenPlain v := by
  cases o with
  | success xs =>
    choose write written using Finding.exists_written
    have entries : List.Forall₂ Finding.Written xs (xs.map write) :=
      List.forall₂_map_right_iff.mpr (List.forall₂_same.mpr fun a _ => written a)
    exact ⟨_, .success entries⟩
  | failure e =>
    cases e with
    | parse p expected =>
      obtain ⟨position, place⟩ := p.exists_written
      exact ⟨_, .failure (.parse place ⟨_, rfl, .refl _⟩)⟩
    | transformation p cause =>
      obtain ⟨position, place⟩ := p.exists_written
      exact ⟨_, .failure (.transformation place ⟨_, rfl, .refl _⟩)⟩
    | transport _ | other _ => exact h.elim

theorem Severity.parse_name (s fallback : Severity) : parse (.text s.name) fallback = s := by
  cases s <;> cases fallback <;> decide +kernel

namespace Response

/-! ## Positions -/

section

variable {p : Position} {v : Value}

theorem place_written (h : p.Written v) : place v = v := by
  have noStart : v.field "start" = .null := h.field_missing (by simp [Entries.keys])
  rw [place, noStart]
  rfl

theorem lineOf_written (h : p.Written v) : lineOf v = .int p.line := by
  rw [lineOf, place_written h]
  exact h.field (by simp) (by simp [Entries.keys])

theorem columnOf_written (h : p.Written v) (inside : p.InDocument) :
    columnOf v = .int p.column := by
  have column : v.field "col" = .int p.column := h.field (by simp) (by simp [Entries.keys])
  rw [columnOf, place_written h, column, Value.orElse, if_pos (Value.isTruthy_int inside.column)]

theorem decodePoint_written (h : p.Written v) (inside : p.InDocument) (fallback : Position) :
    decodePoint v fallback = .ok p := by
  have usable : Usable v := by
    refine ⟨h.isDict, ?_, ?_⟩
    · rw [lineOf_written h]
      exact Value.isCount_int p.line
    · rw [columnOf_written h inside]
      exact Value.isCount_int p.column
  rw [decodePoint_usable usable, lineOf_written h, columnOf_written h inside,
    Value.countOr_int inside.line, Value.countOr_int inside.column]
  exact congrArg Except.ok inside.clamp_eq

end

/-! ## Findings -/

section

variable {a : Finding} {raw position : Value}

theorem fields_distinct (a : Finding) (position : Value) :
    (Entries.keys (a.fields position)).Nodup := by
  show ["position", "explanation", "explanation_long", "solution", "severity", "kind"].Nodup
  decide

theorem decodeMessage_text {message : String} (h : raw.field "explanation" = .text message)
    (filled : message ≠ "") (trimmed : Text.trim message = message) :
    decodeMessage raw = message := by
  unfold decodeMessage
  rw [h, Value.orElse, if_pos (Value.isTruthy_text.mpr filled), Value.displayOrEmpty_text, trimmed]
  exact if_neg fun empty => filled (String.isEmpty_iff.mp empty)

/-- An entry is described by the fields that were written. -/
theorem describe_written (fields : raw.HasFields (a.fields position)) (normal : a.IsNormal) :
    describe raw a.range = a := by
  have read {key : String} {w : Value} (member : (key, w) ∈ a.fields position) :
      raw.field key = w := fields.field member (fields_distinct a position)
  have message : decodeMessage raw = a.message :=
    decodeMessage_text (read (by simp [Finding.fields])) normal.message normal.trimmed
  have details : raw.field "explanation_long" = .text a.details := read (by simp [Finding.fields])
  have suggestion : raw.field "solution" = .text a.suggestion := read (by simp [Finding.fields])
  have severity : raw.field "severity" = .text a.severity.name := read (by simp [Finding.fields])
  have kind : raw.field "kind" = .text a.kind := read (by simp [Finding.fields])
  rw [describe, message, details, suggestion, severity, kind, kindName, Severity.parse_name,
    Value.displayOrEmpty_text, Value.displayOrEmpty_text, Value.displayOrEmpty_text, normal.kind]

theorem decodeFinding_written (h : a.Written raw) (normal : a.IsNormal) :
    decodeFinding raw = .ok (some a) := by
  obtain ⟨position, ⟨start, stop, hstart, hstop, ends⟩, fields⟩ := h
  have found : raw.field "position" = position :=
    fields.field (by simp [Finding.fields]) (fields_distinct a position)
  have first : startOf raw = start := by
    rw [startOf, found]
    exact ends.field (by simp) (by simp [Entries.keys])
  have last : endOf raw = stop := by
    rw [endOf, found]
    exact ends.field (by simp) (by simp [Entries.keys])
  have dict : HasPosition raw := by
    rw [HasPosition, found]
    exact ends.isDict
  rw [decodeFinding_position dict, first, last,
    decodePoint_written hstart normal.range.start origin]
  show (decodePoint stop a.range.start >>= _) = _
  rw [decodePoint_written hstop normal.range.stop a.range.start]
  show Except.ok (some (describe raw a.range).normalize) = _
  rw [describe_written fields normal, normal.normalize_eq]

theorem decodeFindings_written {xs : List Finding} {items : List Value}
    (h : List.Forall₂ Finding.Written xs items) (normal : ∀ a ∈ xs, a.IsNormal) :
    decodeFindings items = .ok xs := by
  induction h with
  | nil => rfl
  | cons first _ ih =>
    obtain ⟨normal, others⟩ := List.forall_mem_cons.mp normal
    rw [decodeFindings_cons, decodeFinding_written first normal, ih others]
    rfl

end

/-! ## Errors -/

theorem map_display_text (xs : List String) : (xs.map Value.text).map (·.display) = xs := by
  rw [List.map_map]
  exact List.map_id xs

theorem decodeError_written {e : LintError} {v : Value} (h : e.Written v)
    (normal : (Outcome.failure e).IsNormal) : decodeError v = .ok (some e) := by
  cases h with
  | @parse p expected position v place fields =>
    have found : v.field "position" = position := fields.field (by simp) (by simp [Entries.keys])
    have list : v.field "expected" = .list (expected.map .text) :=
      fields.field (by simp) (by simp [Entries.keys])
    have dict : ((Value.dict [("parseerror", v)]).field "parseerror").isDict = true := fields.isDict
    rw [decodeError_parse dict, Value.field_one, found, decodePoint_written place normal,
      expectedOf, list]
    simp only [map_display_text]
    rfl
  | @transformation p cause position v place fields =>
    have found : v.field "position" = position := fields.field (by simp) (by simp [Entries.keys])
    have text : v.field "cause" = .text cause := fields.field (by simp) (by simp [Entries.keys])
    have other : ¬ ((Value.dict [("transformationerror", v)]).field "parseerror").isDict = true :=
      Bool.false_ne_true
    have dict : ((Value.dict [("transformationerror", v)]).field "transformationerror").isDict =
      true := fields.isDict
    rw [decodeError_transformation other dict, Value.field_one, found,
      decodePoint_written place normal.1, causeOf, text, Value.orElse,
      if_pos (Value.isTruthy_text.mpr normal.2)]
    rfl

/-! ## Answers -/

theorem unwrap_written {o : Outcome} {payload : Value} (h : o.Written payload) :
    o.WrittenPlain (unwrap payload) := by
  cases h with
  | plain answer =>
    -- No envelope has the key of a plain answer.
    cases answer with
    | success entries => exact .success entries
    | failure error => exact .failure error
  | enveloped answer => cases o <;> exact answer

theorem decode_error_of {payload error : Value} {e : LintError}
    (unwrapped : unwrap payload = .dict [("Error", error)])
    (decoded : decodeError error = .ok (some e)) : decode payload = .ok (.failure e) := by
  rw [decode, unwrapped]
  show (decodeError error >>= _) = _
  rw [decoded]
  rfl

/-- **Decoding undoes writing.** What linters tell of has an answer, and each of its answers is
decoded to the outcome that it was written from, be it findings in their order, a syntax error
or a failed transformation, alone or in an envelope. -/
theorem decode_written {o : Outcome} (normal : o.IsNormal) :
    (∃ v, o.WrittenPlain v) ∧ ∀ payload, o.Written payload → decode payload = .ok o := by
  refine ⟨Outcome.exists_writtenPlain normal, fun payload written => ?_⟩
  have plain := unwrap_written written
  generalize unwrapped : unwrap payload = v at plain
  cases plain with
  | success entries =>
    rw [decode_lists ⟨_, unwrapped, rfl⟩, decodeFindings_written entries normal]
    rfl
  | failure error => exact decode_error_of unwrapped (decodeError_written error normal)

/-- A result in its envelope, with the parts of a position and of an entry in another order. -/
theorem decode_written_reordered :
    let found : Finding := ⟨⟨⟨2, 1⟩, ⟨2, 5⟩⟩, .error, "Bad word.", "", "good", "style"⟩
    let start := Value.dict [("col", .int 1), ("line", .int 2)]
    let stop := Value.dict [("line", .int 2), ("col", .int 5)]
    let position := Value.dict [("start", start), ("end", stop)]
    let entry := Value.dict [("explanation", .text "Bad word."), ("position", position),
      ("explanation_long", .text ""), ("solution", .text "good"), ("severity", .text "error"),
      ("kind", .text "style")]
    let payload := Value.dict [("Ok", listing [entry])]
    ((Outcome.success [found]).IsNormal ∧ (Outcome.success [found]).Written payload) ∧
      decode payload = .ok (.success [found]) := by
  intro found start stop position entry payload
  have normal : (Outcome.success [found]).IsNormal := by
    intro a ha
    obtain rfl := List.mem_singleton.mp ha
    exact {
      range := ⟨⟨by decide, by decide⟩, ⟨by decide, by decide⟩, rfl⟩
      message := by decide
      trimmed := by decide +kernel
      kind := by decide +kernel }
  have place : found.range.Written position :=
    ⟨start, stop, ⟨_, rfl, .swap _ _ _⟩, ⟨_, rfl, .refl _⟩, _, rfl, .refl _⟩
  have written : (Outcome.success [found]).Written payload :=
    .enveloped (.success (.cons ⟨position, place, _, rfl, .swap _ _ _⟩ .nil))
  exact ⟨⟨normal, written⟩, (decode_written normal).2 _ written⟩

end Response
end LiveLint
