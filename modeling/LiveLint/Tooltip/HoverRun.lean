import LiveLint.Tooltip.Hover

/-! A hover on a clock. -/

namespace LiveLint

structure HoverRun (P : Type) where
  now : Nat := 0
  hover : Hover P

namespace HoverRun

variable {P : Type}

inductive Step (P : Type) where
  | move (mark : Option Nat) (pos : P)
  | left
  | advance (ms : Nat)
  | revoke (mark : Nat)
  | dispose (hideView : Bool)

def moment (r : HoverRun P) : Moment := ⟨r.now, Alarm.nextTurn r.hover.alarms⟩

def set (r : HoverRun P) (x : Logged (HoverEvent P) (Hover P)) :
    Logged (HoverEvent P) (HoverRun P) :=
  ⟨{ r with hover := x.value }, x.events⟩

/-- Let time pass up to `limit`; the first argument bounds how often an alarm rings. -/
def runTo (limit : Nat) : Nat → HoverRun P → Logged (HoverEvent P) (HoverRun P)
  | 0, r => pure { r with now := limit }
  | rings + 1, r => match Alarm.due? limit r.hover.alarms with
    | some (label, a) => do
      let r := { r with now := a.due }
      runTo limit rings (← r.set (r.hover.ring r.moment label))
    | none => pure { r with now := limit }

/-- Each alarm rings at most once while nothing else happens. -/
def step (s : Step P) (r : HoverRun P) : Logged (HoverEvent P) (HoverRun P) :=
  match s with
  | .move mark pos => r.set (r.hover.move r.moment mark pos)
  | .left => r.set (r.hover.left r.moment)
  | .advance ms => r.runTo (r.now + ms) 3
  | .revoke n => r.set (r.hover.revoke r.moment n)
  | .dispose hideView => r.set (r.hover.dispose r.moment hideView)

def run (steps : List (Step P)) (r : HoverRun P) : Logged (HoverEvent P) (HoverRun P) :=
  steps.foldlM (fun r s => r.step s) r

end HoverRun
end LiveLint
