import LiveLint.Lint.Severity

/-! Findings of a document. Linters count lines and columns from one and give the
last position of a range; marks count from zero and end before their end, and a mark
is never empty. -/

namespace LiveLint

structure Position where
  line : Int
  column : Int
  deriving DecidableEq, Inhabited

/-- Order in the document: by line, then by column. -/
def Position.before (p q : Position) : Bool :=
  p.line < q.line || (p.line == q.line && p.column < q.column)

structure TextRange where
  start : Position
  stop : Position
  deriving DecidableEq, Inhabited

def TextRange.point (p : Position) : TextRange := ⟨p, p⟩

def TextRange.isPoint (r : TextRange) : Bool := r.start == r.stop

/-- A zero-based range that ends before its end. -/
structure Span where
  startLine : Int
  startColumn : Int
  endLine : Int
  endColumn : Int
  deriving DecidableEq, Inhabited

structure Finding where
  range : TextRange
  severity : Severity
  message : String
  details : String := ""
  suggestion : String := ""
  kind : String := ""
  deriving DecidableEq, Inhabited

def Finding.line (a : Finding) : Int := a.range.start.line

/-- A position in the document: both counts are at least one. -/
def Position.clamp (p : Position) : Position := ⟨max 1 p.line, max 1 p.column⟩

/-- Positions in the document, and an end that is not before the start. -/
def TextRange.normalize (r : TextRange) : TextRange :=
  let start := r.start.clamp
  let stop := r.stop.clamp
  ⟨start, if stop.before start then start else stop⟩

def Finding.normalize (a : Finding) : Finding := { a with range := a.range.normalize }

/-- The span of a range: one column wide unless the range ends after its start. -/
def TextRange.toSpan (r : TextRange) : Span :=
  let startLine := max 0 (r.start.line - 1)
  let startColumn := max 0 (r.start.column - 1)
  let endLine := max 0 (r.stop.line - 1)
  let endColumn := max 0 (r.stop.column - 1)
  if endLine < startLine || (endLine == startLine && endColumn ≤ startColumn) then
    ⟨startLine, startColumn, startLine, startColumn + 1⟩
  else ⟨startLine, startColumn, endLine, endColumn⟩

/-- The finding as one line of plain text, and its suggestion on a second one. -/
def Finding.plainText (a : Finding) : String :=
  if a.suggestion.isEmpty then a.message else a.message ++ "\n=> try: " ++ a.suggestion

end LiveLint
