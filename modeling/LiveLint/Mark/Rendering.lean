import LiveLint.Mark.Surface
import LiveLint.Timing.Logged

/-! A renderer, the surface that it calls, and those who listen to its marks. They begin and stop
to listen when they want, also between two calls of one rendering. -/

namespace LiveLint

/-- Someone begins or stops to listen to the mark of a number. -/
inductive Listening (L : Type) where
  | watch (number : Nat) (l : L)
  | unwatch (number : Nat) (l : L)

/-- A surface, and all marks that were ever made for it. -/
structure Board (L : Type) where
  surface : Surface := {}
  marks : MarkTable L := []

namespace Board

inductive Act (L : Type) where
  | call (c : SurfaceCall)
  | listen (x : Listening L)

inductive Event (L : Type) where
  | call (c : SurfaceCall)
  /-- Someone who listens to a mark is told that it is revoked. -/
  | told (number : Nat) (l : L)

variable {L : Type}

/-- Work on the handle of a mark; those who are called are told. -/
def handle (n : Nat) (f : Handle L → Handle L × List L) (b : Board L) :
    Logged (Event L) (Board L) :=
  match b.marks[n]? with
  | none => pure b
  | some m =>
    let (handle, called) := f m.handle
    ⟨{ b with marks := b.marks.set n { m with handle } }, called.map (.told n)⟩

/-- Carry out a call: the mark of a new number is made, the one taken off is revoked. -/
def perform (lookup : Option ExampleLookup) (c : SurfaceCall) (b : Board L) :
    Logged (Event L) (Board L) := do
  Logged.publish (.call c)
  let b := { b with surface := b.surface.apply c }
  match c with
  | .add _ a => pure { b with marks := b.marks ++ [Mark.ofFinding lookup a] }
  | .remove number => b.handle number Handle.revoke
  | _ => pure b

variable [BEq L]

def listen (x : Listening L) (b : Board L) : Logged (Event L) (Board L) :=
  match x with
  | .watch number l => b.handle number (Handle.add l)
  | .unwatch number l => b.handle number fun h => (h.remove l, [])

def act (lookup : Option ExampleLookup) (a : Act L) (b : Board L) : Logged (Event L) (Board L) :=
  match a with
  | .call c => b.perform lookup c
  | .listen x => b.listen x

def actAll (lookup : Option ExampleLookup) (acts : List (Act L)) (b : Board L) :
    Logged (Event L) (Board L) :=
  acts.foldlM (fun b a => b.act lookup a) b

end Board

structure Rendering (L : Type) where
  renderer : Renderer := {}
  board : Board L := {}

namespace Rendering
open Board

inductive Operation where
  | render (groups : List LineGroup)
  | clear

/-- An operation, and who begins or stops to listen before each of its calls; what is left over
comes after the last of them. -/
structure Step (L : Type) where
  operation : Operation
  meanwhile : List (List (Listening L)) := []

/-- The calls of an operation; `next` is the number of the next mark. -/
def operate (next : Nat) (op : Operation) (r : Renderer) : List SurfaceCall × Renderer :=
  match op with
  | .render groups => r.render next groups
  | .clear => r.clear

variable {L : Type}

def weave : List SurfaceCall → List (List (Listening L)) → List (Act L)
  | [], rest => rest.flatten.map .listen
  | c :: calls, [] => .call c :: weave calls []
  | c :: calls, now :: rest => now.map .listen ++ .call c :: weave calls rest

variable [BEq L]

def step (s : Step L) (r : Rendering L) : Logged (Event L) (Rendering L) := do
  let (calls, renderer) := operate r.board.marks.length s.operation r.renderer
  let board ← r.board.actAll r.renderer.lookup (weave calls s.meanwhile)
  pure { renderer, board }

def run (steps : List (Step L)) (r : Rendering L) : Logged (Event L) (Rendering L) :=
  steps.foldlM (fun r s => r.step s) r

end Rendering
end LiveLint
