import LiveLint.Lint.Severity
import LiveLint.Settings.LintConfig

/-! The colours with which an editor draws. Whatever names no colour falls back to the
default of its severity. -/

namespace LiveLint

namespace VisualConfig

def colorNames : List String := ["red", "green", "blue", "black", "white"]

/-- Whether a text is a colour to draw with: three, six or eight hexadecimal digits after
a number sign, or a name, in which case does not matter. -/
def isDrawable (s : String) : Bool :=
  match s.toList with
  | '#' :: ds =>
    (ds.length == 3 || ds.length == 6 || ds.length == 8) && ds.all Text.isHexDigit
  | _ => colorNames.contains (Text.lower s)

/-- The colour under a key, or its default. -/
def drawable (raw : Value) (key fallback : String) : String :=
  match raw.field key with
  | .text s => if isDrawable s then s else fallback
  | _ => fallback

/-- The thickness of lines under a key. -/
def readThickness (raw : Value) (key : String) (fallback : Int) : Int :=
  (raw.field key).clampInt 1 6 fallback

/-- What an editor makes of the look it is given. -/
def forEditor (raw : Value) : VisualConfig :=
  let base : VisualConfig := {}
  { errorColor := drawable raw "error_color" base.errorColor
    warningColor := drawable raw "warning_color" base.warningColor
    infoColor := drawable raw "info_color" base.infoColor
    squiggleThickness := readThickness raw "squiggle_thickness" base.squiggleThickness }

/-- The colour of a severity given by name; an unknown one has the default of `info`. -/
def colorOf (c : VisualConfig) (severity : String) : String :=
  match Severity.ofName? severity with
  | some .error => c.errorColor
  | some .warning => c.warningColor
  | some .info => c.infoColor
  | none => ({} : VisualConfig).infoColor

end VisualConfig
end LiveLint
