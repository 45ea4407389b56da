import LiveLint.Value
import LiveLint.Text.LowerCase

/-! The configuration of linting. It is read from whatever a settings file holds: every
field that is missing or makes no sense falls back to its default, and numbers are
brought into their range. -/

namespace LiveLint

inductive Backend where
  | http
  | command
  deriving DecidableEq, Inhabited

def Backend.name : Backend → String
  | http => "http"
  | command => "command"

structure VisualConfig where
  errorColor : String := "#E35D6A"
  warningColor : String := "#D6A54A"
  infoColor : String := "#6AA1FF"
  squiggleThickness : Int := 2
  deriving DecidableEq

structure LintConfig where
  enabled : Bool := true
  debounceMs : Int := 500
  gutter : Bool := true
  hoverDelayMs : Int := 180
  tooltipFadeMs : Int := 150
  resultPollMs : Int := 35
  backend : Backend := .http
  backendUrl : String := "http://127.0.0.1:8000/"
  command : String := ""
  requestTimeout : Binary64 := .ofRatio false 20 1
  examplesPath : String := ""
  showExamples : Bool := true
  visual : VisualConfig := {}
  deriving DecidableEq

namespace VisualConfig

/-- Six or eight hexadecimal digits after a number sign. -/
def isColor (s : String) : Bool :=
  match s.toList with
  | '#' :: ds => (ds.length == 6 || ds.length == 8) && ds.all Text.isHexDigit
  | _ => false

def readColor (v : Value) (fallback : String) : String :=
  let s := Text.trim v.displayOrEmpty
  if isColor s then s else fallback

end VisualConfig

/-- The integer of a value within bounds; what is no integer becomes the fallback. -/
def Value.clampInt (v : Value) (low high fallback : Int) : Int :=
  match v.toInt with
  | .ok n => max low (min high n)
  | .error _ => fallback

/-- The number of a value within bounds; what is no number at all becomes the fallback. -/
def Value.clampBinary (v : Value) (low high fallback : Binary64) : Binary64 :=
  match v.toBinary with
  | .ok x => low.max (high.min x)
  | .error _ => fallback

namespace LintConfig

def leastTimeout : Binary64 := .ofRatio false 1 2

def greatestTimeout : Binary64 := .ofRatio false 300 1

/-- The value under a key of the raw settings; `fallback` where the key is missing. -/
def rawField (raw : Value) (key : String) (fallback : Value) : Value :=
  match raw with
  | .dict entries => (Entries.find? key entries).getD fallback
  | _ => fallback

def readBackend (v : Value) : Backend :=
  let s := Text.lower (Text.trim (v.orElse (.text "http")).display)
  if s = "command" then .command else .http

def readVisual (v : Value) : VisualConfig :=
  let base : VisualConfig := {}
  { errorColor := VisualConfig.readColor (v.field "error_color") base.errorColor
    warningColor := VisualConfig.readColor (v.field "warning_color") base.warningColor
    infoColor := VisualConfig.readColor (v.field "info_color") base.infoColor
    squiggleThickness := (v.field "squiggle_thickness").clampInt 1 6 base.squiggleThickness }

/-- The configuration that raw settings stand for. -/
def ofValue (raw : Value) : LintConfig :=
  let base : LintConfig := {}
  let read (key : String) (fallback : Value) : Value := rawField raw key fallback
  let readText (key fallback : String) : String :=
    Text.trim (read key (.text fallback)).displayOrEmpty
  let readInt (key : String) (low high fallback : Int) : Int :=
    (read key (.int fallback)).clampInt low high fallback
  { enabled := (read "enabled" (.bool base.enabled)).isTruthy
    debounceMs := readInt "debounce_ms" 100 5000 base.debounceMs
    gutter := (read "gutter" (.bool base.gutter)).isTruthy
    hoverDelayMs := readInt "hover_delay_ms" 0 2000 base.hoverDelayMs
    tooltipFadeMs := readInt "tooltip_fade_ms" 0 2000 base.tooltipFadeMs
    resultPollMs := readInt "result_poll_ms" 5 1000 base.resultPollMs
    backend := readBackend (read "backend" (.text base.backend.name))
    backendUrl := readText "backend_url" base.backendUrl
    command := readText "command" base.command
    requestTimeout := (read "request_timeout_s" (.float base.requestTimeout)).clampBinary
      leastTimeout greatestTimeout base.requestTimeout
    examplesPath := readText "examples_path" base.examplesPath
    showExamples := (read "show_examples" (.bool base.showExamples)).isTruthy
    visual := readVisual (read "visual" (.dict [])) }

end LintConfig

def VisualConfig.toValue (c : VisualConfig) : Value :=
  .dict [("error_color", .text c.errorColor), ("warning_color", .text c.warningColor),
    ("info_color", .text c.infoColor), ("squiggle_thickness", .int c.squiggleThickness)]

/-- The configuration as it is written to settings files. -/
def LintConfig.toEntries (c : LintConfig) : Entries :=
  [("enabled", .bool c.enabled), ("debounce_ms", .int c.debounceMs), ("gutter", .bool c.gutter),
    ("hover_delay_ms", .int c.hoverDelayMs), ("tooltip_fade_ms", .int c.tooltipFadeMs),
    ("result_poll_ms", .int c.resultPollMs), ("backend", .text c.backend.name),
    ("backend_url", .text c.backendUrl), ("command", .text c.command),
    ("request_timeout_s", .float c.requestTimeout), ("examples_path", .text c.examplesPath),
    ("show_examples", .bool c.showExamples), ("visual", c.visual.toValue)]

def LintConfig.toValue (c : LintConfig) : Value := .dict c.toEntries

end LiveLint
