import LiveLint.Mark.Renderer

/-! What an editor holds of a lint session: the marks in the order in which they were added
and one marker a line in the gutter. -/

namespace LiveLint

/-- A marker of a line, whose severity is of the type `S`. -/
structure GutterMarker (S : Type) where
  line : Int
  severity : S
  markup : String
  deriving DecidableEq

/-- Set the marker of a line, in place of an earlier one. -/
def GutterMarker.put {S : Type} (m : GutterMarker S) : List (GutterMarker S) → List (GutterMarker S)
  | [] => [m]
  | n :: rest =>
    if n.line = m.line then m :: rest
    else if m.line < n.line then m :: n :: rest
    else n :: put m rest

structure Surface where
  marks : List Nat := []
  /-- Markers by ascending line. -/
  gutter : List (GutterMarker Severity) := []
  deriving DecidableEq

namespace Surface

def apply (s : Surface) : SurfaceCall → Surface
  | .add number _ => { s with marks := s.marks ++ [number] }
  | .remove number => { s with marks := s.marks.erase number }
  | .setGutter line severity markup =>
    { s with gutter := GutterMarker.put ⟨line, severity, markup⟩ s.gutter }
  | .clearGutter => { s with gutter := [] }

end Surface
end LiveLint
