import LiveLint.Tooltip.Hover
import LiveLint.Mark.Renderer
import LiveLint.Mark.Surface

/-! A surface with the marks on it, the renderer that puts them there, and the tooltip that
hovers over them. A mark is revoked as soon as it was taken off the surface. -/

namespace LiveLint

structure Stage (P : Type) where
  renderer : Renderer := {}
  surface : Surface := {}
  hover : Hover P

namespace Stage

variable {P : Type}

inductive Event (P : Type) where
  | add (number : Nat) (finding : Finding)
  /-- A mark is taken off, with whether it was alive then. -/
  | remove (number : Nat) (alive : Bool)
  | gutter (line : Int) (severity : Severity) (markup : String)
  | clearGutter
  | summary (counts : Counts) (text : String)
  | hover (e : HoverEvent P)

def setHover (s : Stage P) (x : Logged (HoverEvent P) (Hover P)) : Logged (Event P) (Stage P) :=
  ⟨{ s with hover := x.value }, x.events.map .hover⟩

/-- The event of a call to the surface. -/
def eventOf (s : Stage P) : SurfaceCall → Event P
  | .add number a => .add number a
  | .remove number => .remove number (s.hover.marks.isAlive number)
  | .setGutter line severity markup => .gutter line severity markup
  | .clearGutter => .clearGutter

/-- Carry out a call: the mark of a new number is made, the one taken off is revoked. -/
def perform (t : Moment) (s : Stage P) (call : SurfaceCall) : Logged (Event P) (Stage P) := do
  Logged.publish (s.eventOf call)
  let s := { s with surface := s.surface.apply call }
  match call with
  | .add _ a =>
    let mark := Mark.ofFinding s.renderer.lookup a
    pure { s with hover := { s.hover with marks := s.hover.marks ++ [mark] } }
  | .remove number => s.setHover (s.hover.revoke t number)
  | _ => pure s

def performAll (t : Moment) (calls : List SurfaceCall) (s : Stage P) :
    Logged (Event P) (Stage P) :=
  calls.foldlM (perform t) s

/-- Take away all that is shown. -/
def clear (t : Moment) (s : Stage P) : Logged (Event P) (Stage P) := do
  let (calls, renderer) := s.renderer.clear
  performAll t calls { s with renderer := renderer }

/-- Show groups of findings in place of what was shown. -/
def render (t : Moment) (groups : List LineGroup) (s : Stage P) : Logged (Event P) (Stage P) := do
  let (calls, renderer) := s.renderer.render s.hover.marks.length groups
  performAll t calls { s with renderer := renderer }

/-- Show groups that came from outside; a fault ends it where it arises. -/
def renderItems (t : Moment) (groups : List ItemGroup) (s : Stage P) :
    Logged (Event P) (Stage P × Option Fault) := do
  let (calls, renderer, fault) := s.renderer.renderItems s.hover.marks.length groups
  let s ← performAll t calls { s with renderer := renderer }
  pure (s, fault)

/-- The summary that follows a rendering. -/
def summaryOf (groups : List LineGroup) : Event P :=
  let counts := countSeverities groups
  .summary counts counts.summary

end Stage
end LiveLint
