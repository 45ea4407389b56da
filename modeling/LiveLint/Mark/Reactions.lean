import LiveLint.Mark.Handle
import LiveLint.Timing.Logged

/-! One handle whose listeners act on it when they are called. -/

namespace LiveLint

inductive HandleStep where
  | add (name : String)
  | remove (name : String)
  | revoke
  deriving DecidableEq

/-- What a listener of that name does when it is called. -/
abbrev HandleReactions := List (String × List HandleStep)

/-- A listener was called, with whether the handle was alive then. -/
structure ListenerCall where
  name : String
  alive : Bool
  deriving DecidableEq

namespace Handle

def reactionOf (reactions : HandleReactions) (name : String) : List HandleStep :=
  ((reactions.find? (·.1 == name)).map (·.2)).getD []

/-- Who is called by a step, after it was done. -/
def apply (s : HandleStep) (h : Handle String) : Handle String × List String :=
  match s with
  | .add name => h.add name
  | .remove name => (h.remove name, [])
  | .revoke => h.revoke

/-- Do steps one after the other. A listener that a step calls does its own steps before the
next; `depth` bounds how deep that goes. -/
def perform (reactions : HandleReactions) :
    Nat → List HandleStep → Handle String → Logged ListenerCall (Handle String)
  | 0, _, h => pure h
  | depth + 1, steps, h => steps.foldlM (fun h s => do
      let (h, called) := h.apply s
      called.foldlM (fun h name => do
        Logged.publish ⟨name, h.alive⟩
        perform reactions depth (reactionOf reactions name) h) h) h

/-- One step with all that follows from it; listeners of different names may call each
other in turn. -/
def step (reactions : HandleReactions) (s : HandleStep) (h : Handle String) :
    Logged ListenerCall (Handle String) :=
  perform reactions (reactions.length + 2) [s] h

/-- Steps that come from outside, one after the other. -/
def run (reactions : HandleReactions) (steps : List HandleStep) (h : Handle String) :
    Logged ListenerCall (Handle String) :=
  steps.foldlM (fun h s => h.step reactions s) h

end Handle
end LiveLint
