import LiveLint.Editor.Coverage
import LiveLint.Editor.Palette
import LiveLint.Mark.Surface

/-! A text editor as a surface for lint marks. The editor knows severities by name, so that
also unknown ones can be shown; they rank below all others. -/

namespace LiveLint

structure EditorMark where
  number : Nat
  /-- A mark without a span is nowhere in the text. -/
  span : Option Span
  severity : String
  deriving DecidableEq

/-- The name under which an editor knows a severity. -/
def severityName (v : Value) : String := Text.lower (v.orElse (.text "warning")).display

def severityRank (name : String) : Nat := ((Severity.ofName? name).map (·.rank)).getD 0

namespace EditorMark

def rank (m : EditorMark) : Nat := severityRank m.severity

/-- Whether a mark is met at a caret. -/
def isAt (c : Caret) (m : EditorMark) : Bool := m.span.any (·.contains c.position)

/-- The most severe mark; of several, the first. -/
def worst? (marks : List EditorMark) : Option EditorMark :=
  marks.foldl (fun best m => match best with
    | some b => if b.rank < m.rank then some m else some b
    | none => some m) none

end EditorMark

structure Editor where
  page : Page := {}
  caret : Caret := ⟨0, 0⟩
  /-- How many marks were ever added; they are numbered from zero. -/
  added : Nat := 0
  marks : List EditorMark := []
  gutter : List (GutterMarker String) := []
  visual : VisualConfig := {}

namespace Editor

/-- Another text, with the caret at its start. -/
def setText (text : String) (hidden : List Int) (e : Editor) : Editor :=
  { e with page := { e.page with lines := Page.linesOf text hidden }, caret := ⟨0, 0⟩ }

def addMark (span : Option Span) (severity : String) (e : Editor) : Editor :=
  { e with added := e.added + 1, marks := e.marks ++ [⟨e.added, span, severity⟩] }

def removeMark (number : Nat) (e : Editor) : Editor :=
  { e with marks := e.marks.filter (·.number != number) }

/-- Set the marker of a line; lines above the text count as the first. -/
def setMarker (line : Int) (severity markup : String) (e : Editor) : Editor :=
  { e with gutter := GutterMarker.put ⟨max 0 line, severity, markup⟩ e.gutter }

def clearMarkers (e : Editor) : Editor := { e with gutter := [] }

/-- Do what a renderer asks for. -/
def perform (e : Editor) : SurfaceCall → Editor
  | .add _ a => e.addMark (some a.range.toSpan) a.severity.name
  | .remove number => e.removeMark number
  | .setGutter line severity markup => e.setMarker line severity.name markup
  | .clearGutter => e.clearMarkers

def markerOf? (line : Nat) (e : Editor) : Option (GutterMarker String) :=
  e.gutter.find? (·.line == line)

/-- The mark at a point of a view, however the view lays out the text. -/
def markIn (layout : Layout) (x y : Int) (e : Editor) : Option EditorMark :=
  let c := layout.caretAt x y
  if e.page.isBeyond layout x c then none else EditorMark.worst? (e.marks.filter (·.isAt c))

/-- The mark at a point of the grid. -/
def markAt (x y : Int) (e : Editor) : Option EditorMark := e.markIn e.page.layout x y

/-- Move the caret to an offset, unless that is beyond the text. -/
def setCaret (offset : Nat) (e : Editor) : Editor :=
  { e with caret := (e.page.caretOf? offset).getD e.caret }

/-- Move the caret to a line and a column, unless there is no such line. -/
def goTo (line column : Int) (e : Editor) : Editor :=
  match e.page.position? line column with
  | none => e
  | some offset => e.setCaret offset

/-! ### The pointer -/

inductive Event where
  /-- The pointer is over a mark or over none; tooltips belong at the point. -/
  | hover (mark : Option Nat) (x y : Int)
  | tip (x y : Int) (markup : String)
  | hideTip
  deriving DecidableEq

/-- How far from the pointer a tooltip is. -/
def tipRight : Int := 16

def tipDown : Int := 14

def pointerMoved (x y : Int) (e : Editor) : Event :=
  .hover ((e.markAt x y).map (·.number)) (x + tipRight) (y + tipDown)

/-- The pointer has left the editor, or the editor has lost the attention. -/
def pointerLeft : Event := .hover none 0 0

/-- The pointer is over the gutter. -/
def gutterHovered (x y : Int) (e : Editor) : Event :=
  match (e.page.lineAt? y).bind e.markerOf? with
  | some m => if m.markup.isEmpty then .hideTip else .tip (x + tipRight) (y + tipDown) m.markup
  | none => .hideTip

end Editor
end LiveLint
