import LiveLint.Number.Decimal

/-! What is drawn on a view, one shape after the other. -/

namespace LiveLint

/-- A coordinate, which is either on the grid or the result of a computation. -/
inductive Coordinate where
  | whole (n : Int)
  | computed (x : Binary64)
  deriving DecidableEq

/-- A path is drawn part by part. -/
inductive PathPart where
  | start (x y : Coordinate)
  | line (x y : Coordinate)
  /-- A curve to a point, bent toward another. -/
  | bend (towardX towardY x y : Coordinate)
  | close
  deriving DecidableEq

abbrev DrawnPath := List PathPart

inductive Drawing where
  | stroke (color : String) (thickness : Int) (path : DrawnPath)
  | fill (color : Option String) (path : DrawnPath)
  | ellipse (color : String) (x y width height : Int)
  | rectangle (color : String) (x y width height : Int)
  /-- A text that is flush with the right edge of its box. -/
  | label (x y width height : Int) (text : String)
  deriving DecidableEq

end LiveLint
