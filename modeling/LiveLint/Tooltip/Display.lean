import LiveLint.Tooltip.Box
import LiveLint.Tooltip.HoverRun

/-! A tooltip that is shown in a box, on a clock. The box does what the tooltip tells it. While
it fades, an animation sets how opaque it is, frame by frame, until its last frame. -/

namespace LiveLint

/-- Where the pointer is, if that is known. -/
abbrev PointerPosition := Option (Int × Int)

namespace TooltipBox

/-- Do what the tooltip tells. -/
def follow (b : TooltipBox) : HoverEvent PointerPosition → TooltipBox
  | .show markup pos _ => b.show markup pos
  | .move pos => b.move pos
  | .fade _ => b.fade
  | .hide _ => b.hide
  | .phase _ => b

/-- A frame of the animation, which is only drawn while it runs. -/
def frame (opacity : Binary64) (last : Bool) (b : TooltipBox) : TooltipBox :=
  if b.fading then { b with opacity, fading := !last } else b

end TooltipBox

structure TooltipDisplay where
  now : Nat := 0
  hover : Hover PointerPosition
  box : TooltipBox := {}

namespace TooltipDisplay

inductive Step where
  | hover (s : HoverRun.Step PointerPosition)
  | frame (opacity : Binary64) (last : Bool)

/-- The box follows what the tooltip has told. -/
def follow (d : TooltipDisplay) (events : List (HoverEvent PointerPosition)) : TooltipBox :=
  events.foldl TooltipBox.follow d.box

def step (s : Step) (d : TooltipDisplay) : Logged (HoverEvent PointerPosition) TooltipDisplay :=
  match s with
  | .hover s =>
    let x := ({ now := d.now, hover := d.hover } : HoverRun PointerPosition).step s
    ⟨{ now := x.value.now, hover := x.value.hover, box := d.follow x.events }, x.events⟩
  | .frame opacity last => pure { d with box := d.box.frame opacity last }

def run (steps : List Step) (d : TooltipDisplay) :
    Logged (HoverEvent PointerPosition) TooltipDisplay :=
  steps.foldlM (fun d s => d.step s) d

end TooltipDisplay
end LiveLint
