import LiveLint.Lint.Group
import LiveLint.Mark.Mark

/-! Rendering groups of findings as marks. The renderer decides which calls the editor
gets and in which order: what was rendered before is taken away first, and nothing is
called where nothing was rendered. -/

namespace LiveLint

/-- What an editor is told to show. -/
inductive SurfaceCall where
  /-- Show the mark of a finding, under the next number. -/
  | add (number : Nat) (finding : Finding)
  | remove (number : Nat)
  | setGutter (line : Int) (severity : Severity) (markup : String)
  | clearGutter

structure Renderer where
  gutter : Bool := true
  lookup : Option ExampleLookup := none
  /-- The marks that are shown, by number. -/
  live : List Nat := []
  /-- Whether anything was shown in the gutter since it was cleared. -/
  inGutter : Bool := false

namespace Renderer

/-- The calls that take away all that is shown. -/
def clear (r : Renderer) : List SurfaceCall × Renderer :=
  (r.live.map .remove ++ (if r.inGutter then [.clearGutter] else []),
    { r with live := [], inGutter := false })

/-- The calls for the marks of one line; `next` is the number of the first. -/
def addMarks (next : Nat) : List Finding → List SurfaceCall
  | [] => []
  | a :: rest => .add next a :: addMarks (next + 1) rest

def gutterCall (r : Renderer) (g : LineGroup) : List SurfaceCall :=
  if r.gutter && !g.findings.isEmpty then
    [.setGutter (max 0 (g.line - 1)) g.highest (findingsMarkup r.lookup g.findings)]
  else []

def addGroups (r : Renderer) (next : Nat) : List LineGroup → List SurfaceCall
  | [] => []
  | g :: rest =>
    addMarks next g.findings ++ r.gutterCall g ++ addGroups r (next + g.findings.length) rest

/-- The calls that show the groups instead of what was shown; `next` is the number of
the first new mark. -/
def render (next : Nat) (groups : List LineGroup) (r : Renderer) : List SurfaceCall × Renderer :=
  let (cleared, r) := r.clear
  let count := (allFindings groups).length
  (cleared ++ r.addGroups next groups,
    { r with
      live := (List.range count).map (next + ·)
      inGutter := r.gutter && groups.any fun g => !g.findings.isEmpty })

/-- Show groups that came from outside. An item without a range ends it with a fault: the
findings before it in its group are added, but the renderer forgets all new marks. -/
def renderItems (next : Nat) (groups : List ItemGroup) (r : Renderer) :
    List SurfaceCall × Renderer × Option Fault :=
  let (whole, cut) := ItemGroup.takeWhole "range" groups
  let (calls, r) := r.render next whole
  match cut with
  | none => (calls, r, none)
  | some (xs, fault) =>
    (calls ++ addMarks (next + r.live.length) xs, { r with live := [] }, some fault)

end Renderer
end LiveLint
