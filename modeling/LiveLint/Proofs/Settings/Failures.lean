import LiveLint.Proofs.Settings.Loading
import LiveLint.Proofs.Settings.Merge
import LiveLint.Proofs.Settings.Saving
import LiveLint.Settings.StoreRun

/-! # Failures of loading and saving

Whatever stands on the disk, saving either writes the data or leaves the store and all that was on
the disk as they were. Loading never changes the disk. Where something without settings stands at
the path, the data become the defaults, and the store says why. Loading fails in two cases only, a
path that cannot be looked up and settings too deep to be copied, and then the data stay as well. -/

namespace LiveLint.Settings

/-! ## What stands at a path -/

/-- The file at the path holds a document with these settings. -/
def HoldsSettings (disk : Disk) (path : Path) (entries : Entries) : Prop :=
  ∃ bytes text, disk.read path = .ok bytes ∧ Text.decodeUtf8 bytes = .ok text ∧
    Json.read (Text.unifyNewlines text) = .ok (.dict entries)

/-- What stands at the path holds no settings: it is a folder, or a file that is no text, no
document, or a document with something else. -/
inductive Unusable (disk : Disk) (path : Path) : Prop where
  | folder (found : disk.lookUp path = .ok (some .folder)) : Unusable disk path
  | noText {bytes : List UInt8} {e : Text.Utf8Error} (file : disk.read path = .ok bytes)
      (flawed : Text.decodeUtf8 bytes = .error e) : Unusable disk path
  | noDocument {bytes : List UInt8} {text : String} {e : Json.Error}
      (file : disk.read path = .ok bytes) (decoded : Text.decodeUtf8 bytes = .ok text)
      (flawed : Json.read (Text.unifyNewlines text) = .error e) : Unusable disk path
  | noDict {bytes : List UInt8} {text : String} {v : Value} (file : disk.read path = .ok bytes)
      (decoded : Text.decodeUtf8 bytes = .ok text)
      (read : Json.read (Text.unifyNewlines text) = .ok v) (other : v.isDict = false) :
      Unusable disk path

section

variable {disk : Disk} {path : Path}

theorem HoldsSettings.readFile_eq {entries : Entries} (h : HoldsSettings disk path entries) :
    (∃ entry, disk.lookUp path = .ok (some entry)) ∧
      readFile disk path false = .ok entries := by
  obtain ⟨bytes, text, file, decoded, read⟩ := h
  refine ⟨⟨_, Disk.lookUp_of_read file⟩, ?_⟩
  rw [readFile_of_read file]
  simp only [readSettings, decoded, read]

theorem Unusable.readFile_eq (h : Unusable disk path) :
    (∃ entry, disk.lookUp path = .ok (some entry)) ∧
      ∃ message, readFile disk path false = .error message := by
  cases h with
  | folder found =>
    have read : disk.read path = .error (.isFolder path) := Disk.read_of_lookUp found
    refine ⟨⟨_, found⟩, (DiskError.isFolder path).message, ?_⟩
    rw [readFile, if_neg Bool.false_ne_true, read]
  | @noText bytes e file flawed =>
    have unread : readSettings path bytes = .error e.message := by rw [readSettings, flawed]
    exact ⟨⟨_, Disk.lookUp_of_read file⟩, _, (readFile_of_read file).trans unread⟩
  | @noDocument bytes text e file decoded flawed =>
    have unread : readSettings path bytes = .error e.message := by
      simp only [readSettings, decoded, flawed]
    exact ⟨⟨_, Disk.lookUp_of_read file⟩, _, (readFile_of_read file).trans unread⟩
  | @noDict bytes text v file decoded read other =>
    have unread : ∃ message, readSettings path bytes = .error message := by
      simp only [readSettings, decoded, read]
      cases v with
      | dict _ => cases other
      | null | bool _ | int _ | float _ | text _ | list _ => exact ⟨_, rfl⟩
    obtain ⟨message, unread⟩ := unread
    exact ⟨⟨_, Disk.lookUp_of_read file⟩, message, (readFile_of_read file).trans unread⟩

/-- What stands at a path holds settings, or it is unusable. -/
theorem holdsSettings_or_unusable {entry : DiskEntry}
    (found : disk.lookUp path = .ok (some entry)) :
    (∃ entries, HoldsSettings disk path entries) ∨ Unusable disk path := by
  cases entry with
  | folder => exact .inr (.folder found)
  | file bytes =>
    have file : disk.read path = .ok bytes := Disk.read_of_lookUp found
    cases decoded : Text.decodeUtf8 bytes with
    | error e => exact .inr (.noText file decoded)
    | ok text =>
      cases read : Json.read (Text.unifyNewlines text) with
      | error e => exact .inr (.noDocument file decoded read)
      | ok v =>
        obtain ⟨entries, rfl⟩ | other := isDict_cases v
        · exact .inl ⟨entries, bytes, text, file, decoded, read⟩
        · exact .inr (.noDict file decoded read other)

theorem HoldsSettings.not_unusable {entries : Entries} (h : HoldsSettings disk path entries) :
    ¬ Unusable disk path := by
  intro unusable
  obtain ⟨-, message, unread⟩ := unusable.readFile_eq
  cases h.readFile_eq.2.symm.trans unread

theorem holdsSettings_of_readSettings {bytes : List UInt8} {entries : Entries}
    (file : disk.read path = .ok bytes) (h : readSettings path bytes = .ok entries) :
    HoldsSettings disk path entries := by
  have read := (readFile_of_read file).trans h
  obtain ⟨entries', held⟩ | unusable := holdsSettings_or_unusable (Disk.lookUp_of_read file)
  · obtain rfl := Except.ok.inj (read.symm.trans held.readFile_eq.2)
    exact held
  · obtain ⟨-, message, unread⟩ := unusable.readFile_eq
    cases read.symm.trans unread

/-- Only what is too long cannot be looked up. -/
theorem lookUp_error {e : DiskError} (failed : disk.lookUp path = .error e) :
    ∃ p, e = .tooLong p := by
  unfold Disk.lookUp at failed
  split at failed
  next => cases failed
  next => exact ⟨_, (Except.error.inj failed).symm⟩
  next => cases failed

end

/-! ## Loading -/

theorem mergeDefaults_nothing {defaults : Entries} (distinct : (Entries.keys defaults).Nodup) :
    mergeDefaults [] defaults = defaults := mergeEntries_eq_append distinct

/-- What loading leaves. -/
structure Loads (r : StoreRun) : Prop where
  disk : (r.step .load).disk = r.disk
  /-- The two cases in which loading fails. -/
  fails_iff : (r.store.load r.disk).2 ≠ none ↔
    (∃ p, r.disk.lookUp r.store.path = .error (.tooLong p)) ∨
      ∃ entries, HoldsSettings r.disk r.store.path entries ∧ ¬ (Value.dict entries).IsShallow
  failed : (r.store.load r.disk).2 ≠ none →
    ∃ lastError, (r.step .load).store = { r.store with lastError }
  unusable : Unusable r.disk r.store.path → (r.store.load r.disk).2 = none ∧
    ∃ message, (r.step .load).store =
      { r.store with data := r.store.defaults, dirty := false, lastError := some message }
  others : (r.store.load r.disk).2 = none → ¬ Unusable r.disk r.store.path →
    (r.step .load).store.lastError = none ∧
      ((r.step .load).store.dirty = true ↔ r.disk.lookUp r.store.path = .ok none)

section

variable {r : StoreRun}

theorem loads_of_failure {lastError : Option String} {f : Fault}
    (loaded : r.store.load r.disk = ({ r.store with lastError }, some f))
    (cause : (∃ p, r.disk.lookUp r.store.path = .error (.tooLong p)) ∨
      ∃ entries, HoldsSettings r.disk r.store.path entries ∧ ¬ (Value.dict entries).IsShallow)
    (usable : ¬ Unusable r.disk r.store.path) : Loads r := by
  have failed : (r.store.load r.disk).2 ≠ none := by
    rw [loaded]
    exact Option.some_ne_none f
  refine ⟨rfl, ⟨fun _ => cause, fun _ => failed⟩, fun _ => ⟨lastError, ?_⟩,
    fun unusable => absurd unusable usable, fun done => absurd done failed⟩
  rw [StoreRun.step, loaded]

theorem loads_of_success {s : Store} (loaded : r.store.load r.disk = (s, none))
    (reached : ∀ p, r.disk.lookUp r.store.path ≠ .error (.tooLong p))
    (shallow : ∀ entries, HoldsSettings r.disk r.store.path entries →
      (Value.dict entries).IsShallow)
    (unusable : Unusable r.disk r.store.path → ∃ message,
      s = { r.store with data := r.store.defaults, dirty := false, lastError := some message })
    (others : ¬ Unusable r.disk r.store.path →
      s.lastError = none ∧ (s.dirty = true ↔ r.disk.lookUp r.store.path = .ok none)) :
    Loads r := by
  have done : (r.store.load r.disk).2 = none := by rw [loaded]
  have left : (r.step .load).store = s := by rw [StoreRun.step, loaded]
  refine ⟨rfl, ⟨fun failed => absurd done failed, fun cause => ?_⟩,
    fun failed => absurd done failed, fun h => ⟨done, left ▸ unusable h⟩,
    fun _ h => left ▸ others h⟩
  rcases cause with ⟨p, failed⟩ | ⟨entries, held, deep⟩
  · exact absurd failed (reached p)
  · exact absurd (shallow entries held) deep

theorem loads_unreachable {e : DiskError} (looked : r.disk.lookUp r.store.path = .error e) :
    Loads r := by
  obtain ⟨p, rfl⟩ := lookUp_error looked
  refine loads_of_failure (Store.load_unreachable looked) (.inl ⟨p, looked⟩) fun unusable => ?_
  obtain ⟨⟨entry, found⟩, -⟩ := unusable.readFile_eq
  cases looked.symm.trans found

theorem loads_missing (looked : r.disk.lookUp r.store.path = .ok none) : Loads r := by
  refine loads_of_success (Store.load_missing looked) (fun p failed => ?_) (fun entries held => ?_)
    (fun unusable => ?_) fun _ => ⟨rfl, fun _ => looked, fun _ => rfl⟩
  · cases looked.symm.trans failed
  · obtain ⟨⟨entry, found⟩, -⟩ := held.readFile_eq
    cases looked.symm.trans found
  · obtain ⟨⟨entry, found⟩, -⟩ := unusable.readFile_eq
    cases looked.symm.trans found

theorem loads_unusable (distinct : (Entries.keys r.store.defaults).Nodup)
    (unusable : Unusable r.disk r.store.path) : Loads r := by
  obtain ⟨⟨entry, found⟩, message, unread⟩ := unusable.readFile_eq
  have loaded := Store.load_unreadable found unread
  rw [mergeDefaults_nothing distinct] at loaded
  refine loads_of_success loaded (fun p failed => ?_) (fun entries held => ?_)
    (fun _ => ⟨message, rfl⟩) fun usable => absurd unusable usable
  · cases found.symm.trans failed
  · exact absurd unusable held.not_unusable

theorem loads_settings {entries : Entries} (held : HoldsSettings r.disk r.store.path entries) :
    Loads r := by
  obtain ⟨⟨entry, found⟩, read⟩ := held.readFile_eq
  by_cases shallow : (Value.dict entries).IsShallow
  · refine loads_of_success (Store.load_settings found read shallow) (fun p failed => ?_)
      (fun entries' held' => ?_) (fun unusable => absurd unusable held.not_unusable)
      fun _ => ⟨rfl, fun dirty => ?_, fun missing => ?_⟩
    · cases found.symm.trans failed
    · obtain rfl := Except.ok.inj (read.symm.trans held'.readFile_eq.2)
      exact shallow
    · cases dirty
    · cases found.symm.trans missing
  · exact loads_of_failure (Store.load_tooDeep found read shallow) (.inr ⟨entries, held, shallow⟩)
      held.not_unusable

theorem loads (distinct : (Entries.keys r.store.defaults).Nodup) : Loads r := by
  cases looked : r.disk.lookUp r.store.path with
  | error e => exact loads_unreachable looked
  | ok entry? =>
    cases entry? with
    | none => exact loads_missing looked
    | some entry =>
      obtain ⟨entries, held⟩ | unusable := holdsSettings_or_unusable looked
      · exact loads_settings held
      · exact loads_unusable distinct unusable

/-! ## Saving -/

/-- What saving leaves. -/
inductive Saves (r : StoreRun) : Prop where
  | written (done : (r.store.save r.disk).2 = .ok (r.step .save).store)
      (clean : (r.step .save).store = { r.store with dirty := false, lastError := none })
      (file : (r.step .save).disk.read r.store.path =
        .ok (Text.encodeUtf8 (Json.indented (.dict r.store.data))))
      (others : ∀ names entry, (r.step .save).disk.resolve r.store.path ≠ .ok names →
        r.disk.at? names = some entry → (r.step .save).disk.at? names = some entry) : Saves r
  | refused {reason : String}
      (failed : (r.store.save r.disk).2 = .error (.notSaved r.store.path.text reason))
      (same : (r.step .save).store = r.store) (kept : r.disk.Extends (r.step .save).disk)
      (obstructed : r.store.Obstructed r.disk) : Saves r

theorem saves : Saves r := by
  obtain ⟨disk', reason, failed, larger, obstructed⟩ | ⟨disk', saved, -, read, others⟩ :=
    r.store.save_cases r.disk
  · have left : r.step .save = { r with disk := disk' } := by rw [StoreRun.step, failed]
    refine .refused (by rw [failed]) ?_ ?_ obstructed
    · rw [left]
    · rw [left]
      exact larger
  · have left : r.step .save =
        { disk := disk', store := { r.store with dirty := false, lastError := none } } := by
      rw [StoreRun.step, saved]
    refine .written ?_ ?_ ?_ ?_
    · rw [saved, left]
    · rw [left]
    · rw [left]
      exact read
    · rw [left]
      exact others

end

/-- **Failures do no harm.** On any disk, saving either writes the data to the file and changes no
other, or reports why it cannot and leaves the store and all files as they were. Loading touches no
file. Where what stands at the path cannot be used, the data become the defaults and the store says
why; otherwise there is no message, and the store is dirty if nothing was there. Loading fails for a
path that is too long and for settings too deep to be copied, and then the data stay. -/
theorem failures_contained {r : StoreRun} (distinct : (Entries.keys r.store.defaults).Nodup) :
    Saves r ∧ Loads r := ⟨saves, loads distinct⟩

/-- A list that is not closed is no settings file. Loading keeps it, saving takes its place. -/
theorem failures_contained_open_list :
    let file := Text.encodeUtf8 "[1, 2"
    let defaults : Entries := [("a", .null)]
    let r : StoreRun := ⟨diskWith file, { path := besidePath, defaults }⟩
    (Entries.keys defaults).Nodup ∧ (r.store.load r.disk).2 = none ∧
      (r.step .load).disk = diskWith file ∧ (r.step .load).store.data = defaults ∧
      (∃ message, (r.step .load).store.lastError = some message) ∧
      (r.step .save).disk.read besidePath = .ok (Text.encodeUtf8 (Json.indented (.dict []))) := by
  intro file defaults r
  have distinct : (Entries.keys r.store.defaults).Nodup := List.nodup_singleton "a"
  obtain ⟨saves, loads⟩ := failures_contained distinct
  have decoded : Text.decodeUtf8 file = .ok "[1, 2" := rfl
  have unusable : Unusable r.disk r.store.path := .noDocument (read_diskWith file) decoded rfl
  obtain ⟨done, message, left⟩ := loads.unusable unusable
  refine ⟨distinct, done, loads.disk, ?_, ⟨message, ?_⟩, ?_⟩
  · rw [left]
  · rw [left]
  · cases saves with
    | written _ _ written _ => exact written
    | refused failed _ _ _ => cases failed

/-- Settings with so many lists in one another can be read, but not loaded. -/
theorem nested_settings_not_loaded :
    let entries : Entries := [("deep", .nested 600)]
    let disk := diskWith (Text.encodeUtf8 (Json.indented (.dict entries)))
    let s : Store := { path := besidePath }
    HoldsSettings disk s.path entries ∧ (s.load disk).2 ≠ none := by
  intro entries disk s
  have json : (Value.dict entries).IsJson :=
    .dict (List.nodup_singleton _) (List.forall_mem_singleton.mpr (Value.isJson_nested 600))
  have depth : (Value.dict entries).depth = 601 := by
    rw [Value.depth, Value.depthOfEntries, Value.depth_nested]
    rfl
  have sorted : Value.sortedEntries entries = entries := by
    rw [Value.sortedEntries, Value.sorted_nested]
    rfl
  have file : disk.read s.path = .ok _ := read_diskWith _
  have printed := readSettings_indented json (by rw [depth]; decide) s.path
  rw [sorted] at printed
  have held : HoldsSettings disk s.path entries := holdsSettings_of_readSettings file printed
  have deep : ¬ (Value.dict entries).IsShallow := by
    unfold Value.IsShallow
    rw [depth]
    decide
  obtain ⟨⟨entry, found⟩, read⟩ := held.readFile_eq
  refine ⟨held, ?_⟩
  rw [Store.load_tooDeep found read deep]
  exact Option.some_ne_none _

end LiveLint.Settings
