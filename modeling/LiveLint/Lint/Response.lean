import LiveLint.Lint.Outcome
import LiveLint.Lint.Example

/-! Decoding of what linters answer. An answer holds the list of findings or an error,
alone or in an envelope that says which of the two it is. Entries that cannot be
understood are left out, and unusable positions fall back to the ones before them. -/

namespace LiveLint.Response

/-- The only key of an envelope is `Ok` or `Err`. -/
def unwrap (payload : Value) : Value :=
  match payload with
  | .dict [(key, body)] => if key = "Ok" || key = "Err" then body else payload
  | _ => payload

/-- An integer where the value is one; a faulty value is none, an infinite number no value
that a position can be read from. -/
def readCount (v : Value) : Except Fault (Option Int) :=
  match v.toInt with
  | .ok n => .ok (some n)
  | .error .infinityToInteger => .error .infinityToInteger
  | .error _ => .ok none

/-- A position, or that of the start of a range. Missing parts come from `fallback`, and
all of it does if a part is no number. -/
def decodePoint (raw : Value) (fallback : Position) : Except Fault Position :=
  if !raw.isDict then .ok fallback
  else do
    let raw := if (raw.field "start").isDict then raw.field "start" else raw
    match ← readCount ((raw.field "line").orElse (.int fallback.line)) with
    | none => .ok fallback
    | some line =>
      let column := (raw.field "col").orElse ((raw.field "column").orElse (.int fallback.column))
      match ← readCount column with
      | none => .ok fallback
      | some column => .ok (Position.clamp ⟨line, column⟩)

/-- The start of the document. -/
def origin : Position := ⟨1, 1⟩

def decodeMessage (raw : Value) : String :=
  let s := Text.trim ((raw.field "explanation").orElse (raw.field "message")).displayOrEmpty
  if s.isEmpty then "Lint issue" else s

/-- An entry of the list, if it has a position. -/
def decodeFinding (raw : Value) : Except Fault (Option Finding) :=
  let position := raw.field "position"
  if !position.isDict then .ok none
  else do
    let start ← decodePoint (position.field "start") origin
    let stop ← decodePoint (position.field "end") start
    .ok (some (Finding.normalize {
      range := ⟨start, stop⟩
      severity := Severity.parse (raw.field "severity") .warning
      message := decodeMessage raw
      details := (raw.field "explanation_long").displayOrEmpty
      suggestion := (raw.field "solution").displayOrEmpty
      kind := kindName (raw.field "kind") }))

def decodeFindings : List Value → Except Fault (List Finding)
  | [] => .ok []
  | raw :: rest => do
    let first ← decodeFinding raw
    let others ← decodeFindings rest
    .ok (first.toList ++ others)

/-- An error of a known kind. -/
def decodeError (raw : Value) : Except Fault (Option LintError) :=
  let parse := raw.field "parseerror"
  let transformation := raw.field "transformationerror"
  if parse.isDict then do
    let position ← decodePoint (parse.field "position") origin
    let expected := match parse.field "expected" with
      | .list items => items.map (·.display)
      | _ => []
    .ok (some (.parse position expected))
  else if transformation.isDict then do
    let position ← decodePoint (transformation.field "position") origin
    let cause := (transformation.field "cause").orElse
      ((transformation.field "message").orElse (.text "Transformation failed."))
    .ok (some (.transformation position cause.display))
  else .ok none

def failed (detail : String) : Outcome := .failure (.transport detail)

def decode (payload : Value) : Except Fault Outcome :=
  match unwrap payload with
  | .dict body =>
    match Entries.find? "Lints" body, Entries.find? "Error" body with
    | some (.list items), _ => (decodeFindings items).map .success
    | some _, _ => .ok (failed "Linter response 'Lints' is not a list.")
    | none, some raw => do
      match ← decodeError raw with
      | some e => .ok (.failure e)
      | none => .ok (failed "Linter reported an unknown error kind.")
    | none, none => .ok (failed "Unrecognised linter response.")
  | _ => .ok (failed "Linter response is not a JSON object.")

/-- Decode the text of an answer. One that goes too deep is a fault of its own. -/
def decodeText (s : String) : Except Fault Outcome :=
  let s := Text.trim s
  if s.isEmpty then .ok (failed "Linter returned an empty response.")
  else match Json.read s with
    | .error (.tooDeep during) => .error (.tooDeep during)
    | .error e => .ok (failed ("Linter returned invalid JSON: " ++ e.message))
    | .ok payload => decode payload

end LiveLint.Response
