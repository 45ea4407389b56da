import LiveLint.Value

/-! The box in which an editor shows the tooltip. It follows the pointer while it is shown,
and it fades: it gets less and less opaque before it is hidden. -/

namespace LiveLint

structure TooltipBox where
  visible : Bool := false
  text : String := ""
  /-- Where the box was moved last. -/
  pos : Option (Int × Int) := none
  opacity : Binary64 := .ofInt 1
  fading : Bool := false
  fadeTime : Int := 150
  deriving DecidableEq

namespace TooltipBox

/-- Move the box; the origin stands for no position. -/
def moveTo (pos : Option (Int × Int)) (b : TooltipBox) : TooltipBox :=
  { b with pos := (pos.filter (· != (0, 0))).or b.pos }

/-- Show a text, and no longer fade. -/
def «show» (text : String) (pos : Option (Int × Int)) (b : TooltipBox) : TooltipBox :=
  { b.moveTo pos with visible := true, text, opacity := .ofInt 1, fading := false }

/-- Follow the pointer; a hidden box stays where it is. -/
def move (pos : Option (Int × Int)) (b : TooltipBox) : TooltipBox :=
  if b.visible then b.moveTo pos else b

def fade (b : TooltipBox) : TooltipBox := if b.visible then { b with fading := true } else b

def hide (b : TooltipBox) : TooltipBox :=
  { b with visible := false, opacity := .ofInt 1, fading := false }

/-- A new duration of fading, which is never negative. -/
def setFadeTime (v : Value) (b : TooltipBox) : Except Fault TooltipBox :=
  v.toInt.map fun ms => { b with fadeTime := max 0 ms }

end TooltipBox
end LiveLint
