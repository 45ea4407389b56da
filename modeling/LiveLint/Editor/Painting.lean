import LiveLint.Editor.Basic
import LiveLint.Editor.Squiggle

/-! How an editor is painted: squiggles under the marked text, and numbers and icons in
the gutter beside it. -/

namespace LiveLint.Editor

/-! ### Squiggles -/

/-- Least severe first, so that the others end up on top; equally severe ones keep their
order. -/
def paintOrder (marks : List EditorMark) : List EditorMark :=
  [0, 1, 2, 3].flatMap fun rank => marks.filter (·.rank == rank)

/-- How far below its upper edge a line is underlined. -/
def underline : Int := 18

/-- The ends of a squiggle under a segment, which is brought into the line and has room for
at least one character. -/
def squiggleEnds (p : Page) (s : Segment) : Int × Int :=
  let left := (Page.clampTo (p.lengthAt s.line) s.start : Int) * Page.charWidth
  let right := (Page.clampTo (p.lengthAt s.line) s.stop : Int) * Page.charWidth
  (left, if right - left < Page.charWidth then left + Page.charWidth else right)

def drawSegment (e : Editor) (color : String) (s : Segment) : Option Drawing :=
  let (left, right) := squiggleEnds e.page s
  let thickness := e.visual.squiggleThickness
  (Squiggle.underMark thickness left right (e.page.topOf s.line + underline)).path?.map
    (.stroke color thickness)

/-- The squiggles of marks on the lines from `first` to `last`. A mark without a span ends
the painting with a fault. -/
def drawMarks (e : Editor) (first last : Int) : List EditorMark → List Drawing × Option Fault
  | [] => ([], none)
  | m :: rest => match m.span with
    | none => ([], some (.noField "NoneType" "end_line"))
    | some s =>
      let color := e.visual.colorOf m.severity
      let (more, fault) := drawMarks e first last rest
      ((e.page.segments s first last).filterMap (e.drawSegment color) ++ more, fault)

/-- The squiggles in view. -/
def drawSquiggles (e : Editor) : List Drawing × Option Fault :=
  let (first, last) := e.page.visibleRange
  if last < first then ([], none) else e.drawMarks first last (paintOrder e.marks)

/-! ### The gutter -/

def iconWidth : Int := 14

/-- The gutter has room for the digits of the last line number and for an icon. -/
def gutterWidth (e : Editor) : Int :=
  6 + Page.charWidth * Decimal.digitCount (max 1 e.page.lines.length) + iconWidth

def iconSize : Int := 10

/-- The icon of a severity on the line that begins at `top`: a disc for errors, a triangle
for warnings and a square for all else. -/
def drawIcon (color severity : String) (top : Int) : Drawing :=
  let x := 2
  let y := top + (Page.rowHeight - iconSize) / 2
  match Severity.ofName? severity with
  | some .error => .ellipse color x y iconSize iconSize
  | some .warning => .fill color [
      .start (.computed ((Binary64.ofInt x).add (.half (.ofInt iconSize)))) (.whole y),
      .line (.whole (x + iconSize)) (.whole (y + iconSize)),
      .line (.whole x) (.whole (y + iconSize)), .close]
  | _ => .rectangle color (x + 1) (y + 1) (iconSize - 2) (iconSize - 2)

def drawLineNumber (e : Editor) (l : PlacedLine) : Drawing :=
  .label iconWidth l.top (e.gutterWidth - iconWidth - 3) Page.rowHeight (toString (l.number + 1))

/-- The icons and numbers in the upper part of the gutter, down to a height. -/
def drawGutter (e : Editor) (height : Int) : List Drawing :=
  (e.page.shown (height - 1)).flatMap fun l =>
    ((e.markerOf? l.number).map fun m =>
      drawIcon (e.visual.colorOf m.severity) m.severity l.top).toList ++ [e.drawLineNumber l]

end LiveLint.Editor
