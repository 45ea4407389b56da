import LiveLint.Lint.Finding
import LiveLint.Text.LineBreak

/-! A text on a grid, as a view shows it. Every character is ten units wide and every line
twenty high; hidden lines take no room. The view begins with some line of the text and
counts upright coordinates from there. -/

namespace LiveLint

structure PageLine where
  length : Nat
  hidden : Bool := false
  deriving DecidableEq

/-- A place between characters, which is always in the text. -/
structure Caret where
  line : Nat
  column : Nat
  deriving DecidableEq

def Caret.position (c : Caret) : Position := ⟨c.line, c.column⟩

/-- How a view lays out its text. -/
structure Layout where
  /-- The caret that is nearest to a point. -/
  caretAt : Int → Int → Caret
  /-- The right edge of a caret. -/
  edge : Caret → Int
  /-- The width of a blank. -/
  blank : Int

structure Page where
  lines : List PageLine := [{ length := 0 }]
  /-- The line with which the view begins. -/
  first : Int := 0
  /-- The height of the view. -/
  height : Int := 200
  deriving DecidableEq

/-- A line in the view, with its number and its upper edge. -/
structure PlacedLine where
  number : Nat
  top : Int
  line : PageLine
  deriving DecidableEq

namespace Page

def charWidth : Int := 10

def rowHeight : Int := 20

/-- The lines of a text, of which those with the given numbers are hidden. -/
def linesOf (text : String) (hidden : List Int) : List PageLine :=
  (Text.documentLines text).zipIdx.map fun (s, n) => ⟨s.length, hidden.contains (n : Int)⟩

def heightOf (l : PageLine) : Int := if l.hidden then 0 else rowHeight

/-- The number within `0 .. limit` that is nearest to an integer. -/
def clampTo (limit : Nat) (n : Int) : Nat := (max 0 (min n limit)).toNat

/-- The length of a line; there are no characters below the last one. -/
def lengthAt (p : Page) (line : Nat) : Nat := (p.lines[line]?.map (·.length)).getD 0

/-! ### Carets -/

/-- The caret at a line and a column, which are brought to the nearest that exist; there
is none below the last line. -/
def caret? (p : Page) (line column : Int) : Option Caret :=
  let n := (max 0 line).toNat
  p.lines[n]?.map fun l => ⟨n, clampTo l.length column⟩

/-- The number of characters before a caret, where every line break counts as one. -/
def offset (p : Page) (c : Caret) : Nat :=
  (p.lines.take c.line).foldl (fun n line => n + line.length + 1) c.column

/-- The offset of a line and a column, which are brought to the nearest that exist; there is
none below the last line. -/
def position? (p : Page) (line column : Int) : Option Nat := (p.caret? line column).map p.offset

/-- The caret with an offset in these lines, of which the first has this number. -/
def caretFrom (number offset : Nat) : List PageLine → Option Caret
  | [] => none
  | l :: rest =>
    if offset ≤ l.length then some ⟨number, offset⟩
    else caretFrom (number + 1) (offset - (l.length + 1)) rest

/-- The caret with an offset; there is none beyond the text. -/
def caretOf? (p : Page) (offset : Nat) : Option Caret := caretFrom 0 offset p.lines

/-- The caret that is nearest to a point of the view. -/
def caretAt (p : Page) (x y : Int) : Caret :=
  let line := clampTo (p.lines.length - 1) (p.first + y.fdiv rowHeight)
  ⟨line, clampTo (p.lengthAt line) ((x + charWidth / 2).fdiv charWidth)⟩

/-- The layout of the grid, on which a caret has no width. -/
def layout (p : Page) : Layout where
  caretAt := p.caretAt
  edge c := c.column * charWidth
  blank := charWidth

/-- Whether a point is more than two blanks to the right of its caret, at the end of a line. -/
def isBeyond (p : Page) (layout : Layout) (x : Int) (c : Caret) : Bool :=
  layout.edge c + 2 * layout.blank < x && p.lengthAt c.line ≤ c.column

/-! ### The view -/

/-- Lines from the number `n` on, of which the first begins at `top`. -/
def placeFrom (n : Nat) (top : Int) : List PageLine → List PlacedLine
  | [] => []
  | l :: rest => ⟨n, top, l⟩ :: placeFrom (n + 1) (top + heightOf l) rest

/-- The lines from the first in view on; none if the view begins outside the text. -/
def placed (p : Page) : List PlacedLine :=
  if p.first < 0 then [] else placeFrom p.first.toNat 0 (p.lines.drop p.first.toNat)

/-- The lines that are shown and begin no lower than `limit`. -/
def shown (p : Page) (limit : Int) : List PlacedLine :=
  (p.placed.takeWhile (·.top ≤ limit)).filter fun l => !l.line.hidden

/-- The first and the last line in view; the last is before the first if there is none. -/
def visibleRange (p : Page) : Int × Int :=
  if p.placed.isEmpty then (0, -1)
  else (p.first, ((p.shown (p.height - 1)).getLast?.map fun l => (l.number : Int)).getD p.first)

/-- The upper edge of a line that is not above the view. -/
def topOf (p : Page) (line : Nat) : Int :=
  ((p.placed.find? (·.number == line)).map (·.top)).getD 0

/-- The line that is shown at a height. -/
def lineAt? (p : Page) (y : Int) : Option Nat :=
  (p.placed.find? fun l => !l.line.hidden && l.top ≤ y && y < l.top + rowHeight).map (·.number)

end Page
end LiveLint
