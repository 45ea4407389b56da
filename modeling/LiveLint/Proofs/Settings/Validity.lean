import LiveLint.Settings.LintConfig
import LiveLint.Proofs.Json.Document
import LiveLint.Proofs.Lint.WrittenForm
import LiveLint.Proofs.Text.LowerCase
import LiveLint.Proofs.Value.Shown

/-! # Valid configurations

Every raw value that was read from JSON stands for a configuration, and a valid one: its numbers
are in range, its texts are trimmed and its colors are colors. A valid configuration stands for
itself. What stands at other paths than those of its fields has no influence. -/

namespace LiveLint
open Settings Text

/-! ## Numbers in range -/

namespace Binary64

variable {low high x : Binary64}

theorem max_min_of_between (above : low.lt x = true) (below : x.lt high = true) :
    low.max (high.min x) = x := by
  rw [min, if_pos below, max, if_pos above]

theorem max_min_idem (bounds : low.lt high = true) (x : Binary64) :
    low.max (high.min (low.max (high.min x))) = low.max (high.min x) := by
  by_cases below : x.lt high
  · by_cases above : low.lt x
    · rw [max_min_of_between above below, max_min_of_between above below]
    · have raised : low.max (high.min x) = low := by rw [min, if_pos below, max, if_neg above]
      rw [raised, min, if_pos bounds]
      exact ite_self low
  · have lowered : low.max (high.min x) = high := by rw [min, if_neg below, max, if_pos bounds]
    have highest : high.min high = high := ite_self high
    rw [lowered, highest, max, if_pos bounds]

end Binary64

namespace Value

theorem clampInt_mem {low high fallback : Int} (h : low ≤ fallback ∧ fallback ≤ high) (v : Value) :
    low ≤ v.clampInt low high fallback ∧ v.clampInt low high fallback ≤ high := by
  unfold clampInt
  split <;> omega

theorem clampInt_int {low high n : Int} (h : low ≤ n ∧ n ≤ high) (fallback : Int) :
    (int n).clampInt low high fallback = n := by
  show max low (min high n) = n
  omega

theorem max_min_clampBinary {low high fallback : Binary64} (bounds : low.lt high = true)
    (above : low.lt fallback = true) (below : fallback.lt high = true) (v : Value) :
    low.max (high.min (v.clampBinary low high fallback)) = v.clampBinary low high fallback := by
  unfold clampBinary
  cases v.toBinary with
  | ok x => exact Binary64.max_min_idem bounds x
  | error e => exact Binary64.max_min_of_between above below

end Value

/-! ## Colors -/

namespace VisualConfig

/-- A color: six or eight hexadecimal digits after a number sign. -/
def IsColor (s : String) : Prop :=
  ∃ ds : List Char, s.toList = '#' :: ds ∧ (ds.length = 6 ∨ ds.length = 8) ∧
    ∀ d ∈ ds, isHexDigit d = true

theorem isColor_iff {s : String} : isColor s = true ↔ IsColor s := by
  unfold isColor IsColor
  split
  next ds found => simp [found]
  next other =>
    refine ⟨fun h => (Bool.false_ne_true h).elim, ?_⟩
    rintro ⟨ds, found, -⟩
    exact absurd found (other ds)

theorem isBlank_of_isHexDigit {c : Char} (h : isHexDigit c = true) : isBlank c = false := by
  have ascii : c.toNat < 0x80 := by
    have low : c ≤ 'f' := by
      simp only [isHexDigit, isAsciiDigit, Bool.or_eq_true, Bool.and_eq_true,
        decide_eq_true_eq] at h
      obtain (⟨-, h⟩ | ⟨-, h⟩) | ⟨-, h⟩ := h
      · exact Char.le_trans h (by decide)
      · exact h
      · exact Char.le_trans h (by decide)
    exact Nat.lt_of_le_of_lt low (by decide)
  have table : ∀ n < 0x80, isHexDigit (Char.ofNat n) = true → isBlank (Char.ofNat n) = false := by
    decide +kernel
  simpa using table c.toNat ascii (by simpa using h)

/-- No character of a color is blank. -/
theorem IsColor.trim {s : String} (h : IsColor s) : trim s = s := by
  obtain ⟨ds, found, -, digits⟩ := h
  have visible : ∀ c ∈ s.toList, isBlank c = false := by
    rw [found]
    exact List.forall_mem_cons.mpr ⟨rfl, fun d member => isBlank_of_isHexDigit (digits d member)⟩
  refine trim_eq_self_iff.mpr ⟨fun c first => ?_, fun c last => ?_⟩
  · exact visible c (List.mem_of_head? first)
  · exact visible c (List.mem_of_getLast? last)

theorem isColor_readColor {fallback : String} (h : IsColor fallback) (v : Value) :
    IsColor (readColor v fallback) := by
  simp only [readColor]
  split
  next usable => exact isColor_iff.mp usable
  next => exact h

theorem readColor_text {s : String} (h : IsColor s) (fallback : String) :
    readColor (.text s) fallback = s := by
  rw [readColor, Value.displayOrEmpty_text, h.trim, if_pos (isColor_iff.mpr h)]

/-! ## The visual section -/

structure IsValid (c : VisualConfig) : Prop where
  errorColor : IsColor c.errorColor
  warningColor : IsColor c.warningColor
  infoColor : IsColor c.infoColor
  squiggleThickness : 1 ≤ c.squiggleThickness ∧ c.squiggleThickness ≤ 6

theorem isValid_default : ({} : VisualConfig).IsValid where
  errorColor := isColor_iff.mp (by decide +kernel)
  warningColor := isColor_iff.mp (by decide +kernel)
  infoColor := isColor_iff.mp (by decide +kernel)
  squiggleThickness := by decide

end VisualConfig

namespace LintConfig

theorem isValid_readVisual (v : Value) : (readVisual v).IsValid := by
  have base := VisualConfig.isValid_default
  constructor
  all_goals simp only [readVisual]
  · exact VisualConfig.isColor_readColor base.errorColor _
  · exact VisualConfig.isColor_readColor base.warningColor _
  · exact VisualConfig.isColor_readColor base.infoColor _
  · exact Value.clampInt_mem base.squiggleThickness _

theorem readVisual_toValue {c : VisualConfig} (valid : c.IsValid) : readVisual c.toValue = c := by
  have error : c.toValue.field "error_color" = .text c.errorColor := rfl
  have warning : c.toValue.field "warning_color" = .text c.warningColor := rfl
  have info : c.toValue.field "info_color" = .text c.infoColor := rfl
  have thickness : c.toValue.field "squiggle_thickness" = .int c.squiggleThickness := rfl
  simp only [readVisual, error, VisualConfig.readColor_text valid.errorColor, warning,
    VisualConfig.readColor_text valid.warningColor, info,
    VisualConfig.readColor_text valid.infoColor, thickness,
    Value.clampInt_int valid.squiggleThickness]

/-! ## Valid configurations -/

/-- What a configuration keeps to: its numbers are in range, its texts are trimmed and its colors
are colors. -/
structure IsValid (c : LintConfig) : Prop where
  debounceMs : 100 ≤ c.debounceMs ∧ c.debounceMs ≤ 5000
  hoverDelayMs : 0 ≤ c.hoverDelayMs ∧ c.hoverDelayMs ≤ 2000
  tooltipFadeMs : 0 ≤ c.tooltipFadeMs ∧ c.tooltipFadeMs ≤ 2000
  resultPollMs : 5 ≤ c.resultPollMs ∧ c.resultPollMs ≤ 1000
  backend : c.backend.name = "http" ∨ c.backend.name = "command"
  backendUrl : IsTrimmedBy isBlank c.backendUrl.toList
  command : IsTrimmedBy isBlank c.command.toList
  requestTimeout : leastTimeout.max (greatestTimeout.min c.requestTimeout) = c.requestTimeout
  examplesPath : IsTrimmedBy isBlank c.examplesPath.toList
  visual : c.visual.IsValid

theorem isValid_ofValue (raw : Value) : (ofValue raw).IsValid where
  debounceMs := Value.clampInt_mem (by decide) _
  hoverDelayMs := Value.clampInt_mem (by decide) _
  tooltipFadeMs := Value.clampInt_mem (by decide) _
  resultPollMs := Value.clampInt_mem (by decide) _
  backend := by cases (ofValue raw).backend <;> decide
  backendUrl := trim_eq_self_iff.mp (trim_trim _)
  command := trim_eq_self_iff.mp (trim_trim _)
  requestTimeout := Value.max_min_clampBinary (by decide +kernel) (by decide +kernel)
    (by decide +kernel) _
  examplesPath := trim_eq_self_iff.mp (trim_trim _)
  visual := isValid_readVisual _

theorem readBackend_name (b : Backend) : readBackend (.text b.name) = b := by
  cases b <;> decide +kernel

/-- A valid configuration stands for itself. -/
theorem ofValue_toValue {c : LintConfig} (valid : c.IsValid) : ofValue c.toValue = c := by
  have trimmed {s : String} (h : IsTrimmedBy isBlank s.toList) :
      trim (Value.text s).displayOrEmpty = s := by
    rw [Value.displayOrEmpty_text, trim_eq_self_iff.mpr h]
  have timeout (fallback : Binary64) :
      (Value.float c.requestTimeout).clampBinary leastTimeout greatestTimeout fallback =
        c.requestTimeout := valid.requestTimeout
  have field (key : String) (v : Value) (found : Entries.find? key c.toEntries = some v)
      (fallback : Value) : rawField c.toValue key fallback = v := by
    show (Entries.find? key c.toEntries).getD fallback = v
    rw [found, Option.getD_some]
  simp only [ofValue, field "enabled" _ rfl, field "debounce_ms" _ rfl, field "gutter" _ rfl,
    field "hover_delay_ms" _ rfl, field "tooltip_fade_ms" _ rfl, field "result_poll_ms" _ rfl,
    field "backend" _ rfl, field "backend_url" _ rfl, field "command" _ rfl,
    field "request_timeout_s" _ rfl, field "examples_path" _ rfl, field "show_examples" _ rfl,
    field "visual" _ rfl, Value.isTruthy, Value.clampInt_int valid.debounceMs,
    Value.clampInt_int valid.hoverDelayMs, Value.clampInt_int valid.tooltipFadeMs,
    Value.clampInt_int valid.resultPollMs, readBackend_name, trimmed valid.backendUrl,
    trimmed valid.command, timeout, trimmed valid.examplesPath, readVisual_toValue valid.visual]

/-! ## Paths of fields -/

/-- Where raw settings hold what a configuration is read from. -/
def fieldPaths : List (List String) := [
  ["enabled"], ["debounce_ms"], ["gutter"], ["hover_delay_ms"], ["tooltip_fade_ms"],
  ["result_poll_ms"], ["backend"], ["backend_url"], ["command"], ["request_timeout_s"],
  ["examples_path"], ["show_examples"], ["visual", "error_color"], ["visual", "warning_color"],
  ["visual", "info_color"], ["visual", "squiggle_thickness"]]

/-- Raw settings that differ at most where no field stands. -/
def SameFields (raw other : Value) : Prop :=
  ∀ path ∈ fieldPaths, followPath raw path = followPath other path

theorem rawField_eq (raw : Value) (key : String) (fallback : Value) :
    rawField raw key fallback = (followPath raw [key]).getD fallback := by
  cases raw with
  | dict entries =>
    rw [followPath_cons, rawField]
    cases Entries.find? key entries <;> rfl
  | null | bool _ | int _ | float _ | text _ | list _ => rfl

theorem field_visual (raw : Value) (key : String) :
    ((followPath raw ["visual"]).getD (.dict [])).field key =
      (followPath raw ["visual", key]).getD .null := by
  have field_eq (v : Value) : v.field key = (followPath v [key]).getD .null := by
    rw [← rawField_eq]
    cases v <;> rfl
  have steps : followPath raw ["visual", key] =
      (followPath raw ["visual"]).bind (followPath · [key]) :=
    followPath_append raw ["visual"] [key]
  rw [steps, field_eq]
  cases followPath raw ["visual"] <;> rfl

/-! ## Texts -/

/-- The values whose texts count for a configuration. -/
def shownValues (raw : Value) : List Value :=
  let base : LintConfig := {}
  let visual := rawField raw "visual" (.dict [])
  [rawField raw "backend" (.text base.backend.name),
    rawField raw "backend_url" (.text base.backendUrl), rawField raw "command" (.text base.command),
    rawField raw "examples_path" (.text base.examplesPath), visual.field "error_color",
    visual.field "warning_color", visual.field "info_color"]

/-- The configuration that raw settings stand for, if all the texts that count can be written. -/
def ofValue? (raw : Value) : Option LintConfig :=
  if (shownValues raw).all (·.display?.isSome) then some (ofValue raw) else none

theorem isSome_display?_followPath {raw fallback : Value} (fits : raw.Fits Descent.limit)
    (shown : fallback.display?.isSome) (path : List String) :
    ((followPath raw path).getD fallback).display?.isSome := by
  cases found : followPath raw path with
  | none => exact shown
  | some v =>
    rw [Option.getD_some, (fits.followPath found).display?_eq]
    rfl

theorem ofValue?_of_fits {raw : Value} (fits : raw.Fits Descent.limit) :
    ofValue? raw = some (ofValue raw) := by
  have shown {fallback : Value} (shown : fallback.display?.isSome) (path : List String) :=
    isSome_display?_followPath fits shown path
  refine if_pos ?_
  simp only [shownValues, rawField_eq, field_visual, List.all_cons, List.all_nil, Bool.and_eq_true]
  exact ⟨shown rfl _, shown rfl _, shown rfl _, shown rfl _, shown rfl _, shown rfl _, shown rfl _,
    trivial⟩

theorem ofValue?_toValue {c : LintConfig} (valid : c.IsValid) : ofValue? c.toValue = some c := by
  have shown : (shownValues c.toValue).all (·.display?.isSome) = true := rfl
  rw [ofValue?, if_pos shown, ofValue_toValue valid]

/-- What stands elsewhere has no influence. -/
theorem ofValue?_congr {raw other : Value} (same : SameFields raw other) :
    ofValue? raw = ofValue? other := by
  simp only [SameFields, fieldPaths, List.forall_mem_cons] at same
  obtain ⟨enabled, debounceMs, gutter, hoverDelayMs, tooltipFadeMs, resultPollMs, backend,
    backendUrl, command, requestTimeout, examplesPath, showExamples, errorColor, warningColor,
    infoColor, squiggleThickness, -⟩ := same
  simp only [ofValue?, shownValues, ofValue, readVisual, rawField_eq, field_visual, enabled,
    debounceMs, gutter, hoverDelayMs, tooltipFadeMs, resultPollMs, backend, backendUrl, command,
    requestTimeout, examplesPath, showExamples, errorColor, warningColor, infoColor,
    squiggleThickness]

/-- **Raw settings that were read from JSON stand for a valid configuration.** All the texts that
count can be written. The configuration stands for itself, and so do settings that are no different
where its fields stand. -/
theorem valid_of_read {s : String} {raw : Value} (read : Json.read s = .ok raw) :
    ofValue? raw = some (ofValue raw) ∧ (ofValue raw).IsValid ∧
      ofValue? (ofValue raw).toValue = some (ofValue raw) ∧
      ∀ other, SameFields raw other → ofValue? other = some (ofValue raw) := by
  have config := ofValue?_of_fits (Json.read_fits read)
  have valid := isValid_ofValue raw
  exact ⟨config, valid, ofValue?_toValue valid, fun other same =>
    (ofValue?_congr same).symm.trans config⟩

/-- The text of a list is a command, and what nobody asks for makes no difference. -/
theorem valid_of_read_unknown_keys :
    let command := Value.list [.text " mwlint", .null]
    let raw := Value.dict [("backend", .text " COMMAND "), ("command", command),
      ("debounce_ms", .int 5),
      ("visual", .dict [("blink", .list []), ("info_color", .text " #112233\n")]),
      ("zoom", .int 2)]
    let known := Value.dict [("backend", .text " COMMAND "), ("command", command),
      ("debounce_ms", .int 5), ("visual", .dict [("info_color", .text " #112233\n")])]
    let config : LintConfig := {
      debounceMs := 100, backend := .command, command := "[' mwlint', None]",
      visual := { infoColor := "#112233" } }
    (Json.read (Json.indented raw) = .ok raw ∧ SameFields raw known) ∧
    ofValue? raw = some config ∧ config.IsValid ∧ ofValue? config.toValue = some config ∧
      ofValue? known = some config := by
  intro command raw known config
  have json : raw.IsJson := by
    have commandJson : command.IsJson :=
      .list (List.forall_mem_cons.mpr ⟨.text _, List.forall_mem_singleton.mpr .null⟩)
    have visualJson :
        (Value.dict [("blink", .list []), ("info_color", .text " #112233\n")]).IsJson := by
      refine .dict ?_ (List.forall_mem_cons.mpr ⟨.list (List.forall_mem_nil _), ?_⟩)
      · show ["blink", "info_color"].Nodup
        decide
      · exact List.forall_mem_singleton.mpr (.text _)
    refine .dict ?_ ?_
    · show ["backend", "command", "debounce_ms", "visual", "zoom"].Nodup
      decide
    · simp only [List.forall_mem_cons]
      exact ⟨.text _, commandJson, .int (by decide), visualJson, .int (by decide),
        List.forall_mem_nil _⟩
  have read : Json.read (Json.indented raw) = .ok raw := by
    have sorted : raw.sorted = raw := by
      simp [raw, command, Value.sorted, Value.sortedEntries, Value.sortedItems, Json.insertEntry]
    rw [Json.read_indented json (by decide), sorted]
  have same : SameFields raw known := by
    simp only [SameFields, fieldPaths, List.forall_mem_cons]
    exact ⟨rfl, rfl, rfl, rfl, rfl, rfl, rfl, rfl, rfl, rfl, rfl, rfl, rfl, rfl, rfl, rfl,
      List.forall_mem_nil _⟩
  have expected : ofValue raw = config := by decide +kernel
  obtain ⟨found, valid, itself, others⟩ := valid_of_read read
  rw [expected] at found valid itself others
  exact ⟨⟨read, same⟩, found, valid, itself, others known same⟩

end LintConfig
end LiveLint
