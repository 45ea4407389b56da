import LiveLint.Lint.Explanation
import LiveLint.Mark.Handle

/-! Marks: findings as an editor shows them. All marks ever made are kept in one table
and named by their number in it. -/

namespace LiveLint

structure Mark (L : Type) where
  finding : Finding
  span : Span
  markup : String
  handle : Handle L := {}

namespace Mark

def alive {L : Type} (m : Mark L) : Bool := m.handle.alive

def spanText (s : Span) : String :=
  "MarkSpan(start_line=" ++ toString s.startLine ++ ", start_column=" ++ toString s.startColumn ++
    ", end_line=" ++ toString s.endLine ++ ", end_column=" ++ toString s.endColumn ++ ")"

/-- A short description of a mark. -/
def describe {L : Type} (m : Mark L) : String :=
  "<LintMark " ++ m.finding.severity.name ++ " " ++ spanText m.span ++ " " ++
    (if m.alive then "alive" else "revoked") ++ ">"

/-- The mark of a finding. -/
def ofFinding {L : Type} (lookup : Option ExampleLookup) (a : Finding) : Mark L :=
  { finding := a, span := a.range.toSpan, markup := a.markup lookup }

end Mark

/-- A mark without its handle, as it is given to those who ask for the marks. -/
structure ProvidedMark where
  start : Position
  stop : Position
  markup : String
  message : String
  severity : String
  deriving DecidableEq

def ProvidedMark.ofMark {L : Type} (m : Mark L) : ProvidedMark :=
  { start := ⟨m.span.startLine, m.span.startColumn⟩
    stop := ⟨m.span.endLine, m.span.endColumn⟩
    markup := m.markup
    message := m.finding.plainText
    severity := m.finding.severity.name }

abbrev MarkTable (L : Type) := List (Mark L)

namespace MarkTable

variable {L : Type}

def update (marks : MarkTable L) (n : Nat) (f : Handle L → Handle L) : MarkTable L :=
  marks.modify n fun m => { m with handle := f m.handle }

/-- Whether the mark of that number exists and was not revoked. -/
def isAlive (marks : MarkTable L) (n : Nat) : Bool := (marks[n]?.map (·.alive)).getD false

end MarkTable
end LiveLint
