import LiveLint.Proofs.Settings.Merge
import LiveLint.Proofs.Settings.Loading

/-! # Defaults of linting

Settings get their defaults twice: the data of a file is merged with those of the program, and the
configuration falls back to its own, field by field. The fallback alone gives the same
configuration, so it does not matter that the data was merged before. -/

namespace LiveLint.LintConfig
open LiveLint.Settings

/-! ## The visual section -/

def visualDefaults : Entries :=
  let base : VisualConfig := {}
  [("error_color", .text base.errorColor), ("warning_color", .text base.warningColor),
    ("info_color", .text base.infoColor), ("squiggle_thickness", .int base.squiggleThickness)]

theorem visualDefaults_distinct : (Entries.keys visualDefaults).Nodup := by
  show ["error_color", "warning_color", "info_color", "squiggle_thickness"].Nodup
  decide

/-- A merge adds a default at most, and that reads as null does. -/
theorem field_mergeEntries {α : Type} (read : Value → α) {defaults : Entries} {key : String}
    {fallback : Value} (distinct : (Entries.keys defaults).Nodup)
    (found : Entries.find? key defaults = some fallback) (plain : fallback.isDict = false)
    (same : read fallback = read .null) (entries : Entries) :
    read ((Value.dict (mergeEntries entries defaults)).field key) =
      read ((Value.dict entries).field key) := by
  simp only [Value.field, find?_mergeEntries distinct, found]
  cases Entries.find? key entries with
  | none => exact same
  | some v => rw [mergedAt, mergeValue_default_of_not_isDict plain]

theorem readColor_mergeEntries (key color : String)
    (found : Entries.find? key visualDefaults = some (.text color))
    (usable : VisualConfig.readColor (.text color) color = VisualConfig.readColor .null color)
    (entries : Entries) :
    VisualConfig.readColor ((Value.dict (mergeEntries entries visualDefaults)).field key) color =
      VisualConfig.readColor ((Value.dict entries).field key) color :=
  field_mergeEntries (VisualConfig.readColor · color) visualDefaults_distinct found rfl usable
    entries

theorem readVisual_mergeEntries (entries : Entries) :
    readVisual (.dict (mergeEntries entries visualDefaults)) = readVisual (.dict entries) := by
  have error := readColor_mergeEntries "error_color" _ rfl (by decide +kernel) entries
  have warning := readColor_mergeEntries "warning_color" _ rfl (by decide +kernel) entries
  have info := readColor_mergeEntries "info_color" _ rfl (by decide +kernel) entries
  have thickness : Entries.find? "squiggle_thickness" visualDefaults = some (.int 2) := rfl
  have thickness := field_mergeEntries (Value.clampInt · 1 6 2) visualDefaults_distinct thickness
    rfl rfl entries
  simp only [readVisual, error, warning, info, thickness]

/-- What a merge finds in the place of the visual section gives the same colors and thickness. -/
theorem readVisual_mergedAt (current? : Option Value) :
    readVisual ((mergedAt current? (some (.dict visualDefaults))).getD (.dict [])) =
      readVisual (current?.getD (.dict [])) := by
  cases current? with
  | none => exact readVisual_mergeEntries []
  | some v =>
    obtain ⟨entries, rfl⟩ | plain := isDict_cases v
    · exact readVisual_mergeEntries entries
    · show readVisual (mergeValue v (.dict visualDefaults)) = readVisual v
      rw [mergeValue_of_not_isDict plain]

/-! ## The lint section -/

def lintDefaults : Entries := ({} : LintConfig).toEntries

theorem lintDefaults_distinct : (Entries.keys lintDefaults).Nodup := by
  show ["enabled", "debounce_ms", "gutter", "hover_delay_ms", "tooltip_fade_ms", "result_poll_ms",
    "backend", "backend_url", "command", "request_timeout_s", "examples_path", "show_examples",
    "visual"].Nodup
  decide

/-- A field whose default is no dictionary is the same before and after a merge. -/
theorem rawField_mergeEntries {key : String} {fallback : Value}
    (found : Entries.find? key lintDefaults = some fallback) (plain : fallback.isDict = false)
    (entries : Entries) :
    rawField (.dict (mergeEntries entries lintDefaults)) key fallback =
      rawField (.dict entries) key fallback := by
  simp only [rawField, find?_mergeEntries lintDefaults_distinct, found]
  cases Entries.find? key entries with
  | none => rfl
  | some v => rw [mergedAt, mergeValue_default_of_not_isDict plain]

theorem rawVisual_mergeEntries (entries : Entries) :
    readVisual (rawField (.dict (mergeEntries entries lintDefaults)) "visual" (.dict [])) =
      readVisual (rawField (.dict entries) "visual" (.dict [])) := by
  have found : Entries.find? "visual" lintDefaults = some (.dict visualDefaults) := rfl
  simp only [rawField, find?_mergeEntries lintDefaults_distinct, found]
  exact readVisual_mergedAt (Entries.find? "visual" entries)

theorem ofValue_mergeEntries (entries : Entries) :
    ofValue (.dict (mergeEntries entries lintDefaults)) = ofValue (.dict entries) := by
  have field (key : String) (fallback : Value)
      (found : Entries.find? key lintDefaults = some fallback) (plain : fallback.isDict = false) :=
    rawField_mergeEntries found plain entries
  simp only [ofValue, rawVisual_mergeEntries, field "enabled" _ rfl rfl,
    field "debounce_ms" _ rfl rfl, field "gutter" _ rfl rfl, field "hover_delay_ms" _ rfl rfl,
    field "tooltip_fade_ms" _ rfl rfl, field "result_poll_ms" _ rfl rfl,
    field "backend" _ rfl rfl, field "backend_url" _ rfl rfl, field "command" _ rfl rfl,
    field "request_timeout_s" _ rfl rfl, field "examples_path" _ rfl rfl,
    field "show_examples" _ rfl rfl]

/-- What a merge finds in the place of the lint section gives the same configuration. -/
theorem ofValue_mergedAt (current? : Option Value) :
    ofValue ((mergedAt current? (some (.dict lintDefaults))).getD (.dict [])) =
      ofValue (current?.getD (.dict [])) := by
  cases current? with
  | none => exact ofValue_mergeEntries []
  | some v =>
    obtain ⟨entries, rfl⟩ | plain := isDict_cases v
    · exact ofValue_mergeEntries entries
    · show ofValue (mergeValue v (.dict lintDefaults)) = ofValue v
      rw [mergeValue_of_not_isDict plain]

end LiveLint.LintConfig

namespace LiveLint.Settings

theorem appDefaults_distinct : (Entries.keys appDefaults).Nodup := by
  show ["lint", "editor", "window"].Nodup
  decide

theorem getAt_lint (data : Entries) (fallback : Value) :
    getAt data "lint" fallback = (Entries.find? "lint" data).getD fallback := by
  have path : pathOf "lint" = ["lint"] := by decide
  rw [getAt, if_neg (by decide), path, followPath]
  cases Entries.find? "lint" data <;> rfl

namespace Store

theorem lintConfig_merged {s : Store} {entries : Entries}
    (merged : s.data = mergeDefaults entries appDefaults) :
    s.lintConfig = .ofValue ((Entries.find? "lint" entries).getD (.dict [])) := by
  have defaults : Entries.find? "lint" appDefaults = some (.dict LintConfig.lintDefaults) := rfl
  rw [lintConfig, get, getAt_lint, merged, mergeDefaults, find?_mergeEntries appDefaults_distinct,
    defaults, LintConfig.ofValue_mergedAt]

/-- **The defaults agree.** Where a file holds settings, whatever its lint section, loading it gives
the configuration that the section alone stands for. Only settings too deep to be copied are not
loaded; then loading fails and leaves the data as it was. -/
theorem load_lintConfig {disk : Disk} {s : Store} {bytes : List UInt8} {entries : Entries}
    (defaults : s.defaults = appDefaults) (file : disk.read s.path = .ok bytes)
    (found : readSettings s.path bytes = .ok entries) :
    if (Value.dict entries).IsShallow then
      (s.load disk).2 = none ∧ (s.load disk).1.lastError = none ∧
        (s.load disk).1.lintConfig = .ofValue ((Entries.find? "lint" entries).getD (.dict []))
    else s.load disk = ({ s with lastError := none }, some (.tooDeep .copying)) := by
  have entry := Disk.lookUp_of_read file
  have found : readFile disk s.path false = .ok entries := (readFile_of_read file).trans found
  split
  next shallow =>
    rw [load_settings entry found shallow]
    exact ⟨rfl, rfl, lintConfig_merged (defaults ▸ rfl)⟩
  next deep => exact load_tooDeep entry found deep

/-- A null is no missing value: the gutter is off. A list is no section: the colors are the
defaults. -/
theorem load_lintConfig_partial :
    let entries : Entries := [("lint", .dict [("gutter", .null), ("visual", .list [])])]
    let bytes := Text.encodeUtf8 (Json.indented (.dict entries))
    let disk := diskWith bytes
    let s : Store := { path := besidePath }
    (s.defaults = appDefaults ∧ disk.read s.path = .ok bytes ∧
      readSettings s.path bytes = .ok entries) ∧
    (s.load disk).2 = none ∧ (s.load disk).1.lintConfig = { gutter := false } := by
  intro entries bytes disk s
  have file : disk.read s.path = .ok bytes := read_diskWith bytes
  have json : (Value.dict entries).IsJson := by
    have lint : (Value.dict [("gutter", .null), ("visual", .list [])]).IsJson := by
      refine .dict ?_ (List.forall_mem_cons.mpr ⟨.null, ?_⟩)
      · show ["gutter", "visual"].Nodup
        decide
      · exact List.forall_mem_singleton.mpr (.list (List.forall_mem_nil _))
    exact .dict (List.nodup_singleton _) (List.forall_mem_singleton.mpr lint)
  have found : readSettings s.path bytes = .ok entries :=
    readSettings_indented json (by decide) s.path
  have shallow : (Value.dict entries).IsShallow := by decide
  have loaded := load_lintConfig rfl file found
  rw [if_pos shallow] at loaded
  obtain ⟨done, -, config⟩ := loaded
  have expected : LintConfig.ofValue ((Entries.find? "lint" entries).getD (.dict [])) =
      { gutter := false } := by
    decide +kernel
  exact ⟨⟨rfl, file, found⟩, done, config.trans expected⟩

/-- Beside lists too deep to be copied, the lint section does not count: linting stays enabled. -/
theorem load_lintConfig_nested :
    let entries : Entries := [("deep", .nested 600), ("lint", .dict [("enabled", .bool false)])]
    let bytes := Text.encodeUtf8 (Json.indented (.dict entries))
    let disk := diskWith bytes
    let s : Store := { path := besidePath }
    (disk.read s.path = .ok bytes ∧ readSettings s.path bytes = .ok entries) ∧
      (s.load disk).1.lintConfig ≠
        .ofValue ((Entries.find? "lint" entries).getD (.dict [])) := by
  intro entries bytes disk s
  have lintSection : (Value.dict [("enabled", .bool false)]).IsJson :=
    .dict (List.nodup_singleton _) (List.forall_mem_singleton.mpr (.bool false))
  have json : (Value.dict entries).IsJson := by
    refine .dict ?_ (List.forall_mem_cons.mpr ⟨Value.isJson_nested 600, ?_⟩)
    · show ["deep", "lint"].Nodup
      decide
    · exact List.forall_mem_singleton.mpr lintSection
  have depth : (Value.dict entries).depth = 601 := by
    rw [Value.depth, Value.depthOfEntries, Value.depth_nested]
    rfl
  have file : disk.read s.path = .ok bytes := read_diskWith bytes
  have found : readSettings s.path bytes = .ok entries := by
    have sorted : Value.sortedEntries entries = entries := by
      rw [Value.sortedEntries, Value.sorted_nested]
      rfl
    have printed := readSettings_indented json (by rw [depth]; decide) s.path
    rwa [sorted] at printed
  have deep : ¬ (Value.dict entries).IsShallow := by
    unfold Value.IsShallow
    rw [depth]
    decide
  refine ⟨⟨file, found⟩, ?_⟩
  rw [load_tooDeep (Disk.lookUp_of_read file) ((readFile_of_read file).trans found) deep]
  intro same
  cases congrArg LintConfig.enabled same

end Store
end LiveLint.Settings
