import LiveLint.Editor.Drawing

/-! Wavy lines. A squiggle goes from the left to the right in steps and bends up and down
in turn; the last step ends where the line does. -/

namespace LiveLint

structure Squiggle where
  left : Binary64
  right : Binary64
  y : Binary64
  amplitude : Binary64
  step : Binary64
  deriving DecidableEq

namespace Squiggle

/-- A bound on the number of bends; twice the quotient leaves room for rounding. A step that is
infinite or no number goes to the end at once. -/
def bendLimit (s : Squiggle) : Nat :=
  match s.left, s.step with
  | .finite a m e, .finite false n f =>
    let stop : Int := match s.right with
      | .finite b k g => Binary64.units b k g
      | _ => Binary64.unitLimit
    2 * ((stop - Binary64.units a m e).toNat / max 1 (n * Nat.pow 2 f)) + 2
  | _, _ => 1

/-- At most `limit` bends from `x` on. -/
def bendsFrom (s : Squiggle) : Nat → Bool → Binary64 → DrawnPath
  | 0, _, _ => []
  | limit + 1, up, x =>
    if x.lt s.right then
      let next := s.right.min (x.add s.step)
      let peak := if up then s.y.sub s.amplitude else s.y.add s.amplitude
      .bend (.computed (x.add next).half) (.computed peak) (.computed next) (.computed s.y) ::
        bendsFrom s limit (!up) next
    else []

/-- The path of a squiggle, if there is anything between its ends. -/
def path? (s : Squiggle) : Option DrawnPath :=
  if s.right.le s.left then none
  else some (.start (.computed s.left) (.computed s.y) :: s.bendsFrom s.bendLimit true s.left)

/-- The step of squiggles under marks. -/
def markStep : Binary64 := .ofRatio false 38 10

/-- The thicker a squiggle is, the higher it goes. -/
def amplitudeFor (thickness : Int) : Binary64 :=
  (Binary64.ofRatio false 14 10).add
    ((Binary64.ofInt thickness).mul (.ofRatio false 32 100))

/-- The squiggle under a mark, from one horizontal coordinate to another. -/
def underMark (thickness left right y : Int) : Squiggle where
  left := .ofInt left
  right := .ofInt right
  y := .ofInt y
  amplitude := amplitudeFor thickness
  step := markStep

end Squiggle
end LiveLint
