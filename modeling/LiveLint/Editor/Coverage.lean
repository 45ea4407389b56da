import LiveLint.Editor.Page

/-! What a span covers: positions, by the order of the document, and parts of lines. -/

namespace LiveLint

namespace Span

def start (s : Span) : Position := ⟨s.startLine, s.startColumn⟩

def stop (s : Span) : Position := ⟨s.endLine, s.endColumn⟩

/-- Whether a position is in the span. A span of one column has its end in it as well, so
that it is met from either side of its character. -/
def contains (s : Span) (p : Position) : Bool :=
  (!p.before s.start && p.before s.stop) ||
    (s.stop == ⟨s.startLine, s.startColumn + 1⟩ && p == s.stop)

end Span

/-- The columns of one line that belong to a span; they may reach beyond the line. -/
structure Segment where
  line : Nat
  start : Int
  stop : Int
  deriving DecidableEq

/-- The part of a span on a line. A span that ends before the first column of a line has
no part there, unless it began there. -/
def Span.segment? (s : Span) (number : Nat) (l : PageLine) : Option Segment :=
  if number < s.startLine || s.endLine < number then none
  else if number == s.endLine && s.endColumn == 0 && s.startLine < s.endLine then none
  else some {
    line := number
    start := if number = s.startLine then s.startColumn else 0
    stop := if number = s.endLine then s.endColumn else l.length }

/-- The parts of a span on the lines from `first` to `last` that are shown. -/
def Page.segments (p : Page) (s : Span) (first last : Int) : List Segment :=
  p.lines.zipIdx.filterMap fun (l, number) =>
    if first ≤ number && number ≤ last && !l.hidden then s.segment? number l else none

end LiveLint
