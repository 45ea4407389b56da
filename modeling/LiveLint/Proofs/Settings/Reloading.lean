import LiveLint.Proofs.Json.WellFormed
import LiveLint.Proofs.Settings.Loading
import LiveLint.Proofs.Settings.MergeLaws
import LiveLint.Proofs.Settings.Saving
import LiveLint.Settings.StoreRun

/-! # Reloading

A store is dirty unless its file stands for its data: the file holds settings that were merged with
the defaults, or it cannot be used and the data are the defaults, or the data were written to it.
Each operation keeps this, whether it fails or not, and so a new store that loads the file of a
clean one has the same data, completed with the defaults. A store whose first load failed is clean
without any data, but then no store can load the file until it is written. -/

namespace LiveLint.Settings

/-! ## Files -/

theorem isJson_readSettings {path : Path} {bytes : List UInt8} {entries : Entries}
    (h : readSettings path bytes = .ok entries) : (Value.dict entries).IsJson := by
  unfold readSettings at h
  split at h
  next => cases h
  next text _ =>
    split at h
    next => cases h
    next read =>
      obtain rfl := Except.ok.inj h
      rw [Json.read] at read
      cases document : Json.readDocument (Text.unifyNewlines text).toList with
      | error e => rw [document] at read; cases read
      | ok v =>
        rw [document] at read
        exact Except.ok.inj read ▸ Json.isJson_readDocument document
    next => cases h

theorem isJson_nothing : (Value.dict []).IsJson := .dict List.nodup_nil (List.forall_mem_nil _)

theorem isJson_readFile {disk : Disk} {path : Path} {missing : Bool} {entries : Entries}
    (h : readFile disk path missing = .ok entries) : (Value.dict entries).IsJson := by
  unfold readFile at h
  split at h
  · obtain rfl := Except.ok.inj h
    exact isJson_nothing
  · split at h
    · exact isJson_readSettings h
    · cases h

theorem readFile_extends {disk disk' : Disk} (h : disk.Extends disk') {path : Path}
    {entry : DiskEntry} (present : disk.lookUp path = .ok (some entry)) :
    readFile disk' path false = readFile disk path false := by
  rw [readFile, readFile, h.read present]

/-! ## Setting -/

theorem isJson_put {entries : Entries} {value : Value} (h : (Value.dict entries).IsJson)
    (hv : value.IsJson) (key : String) : (Value.dict (entries.put key value)).IsJson := by
  obtain ⟨distinct, json⟩ := h.of_dict
  refine .dict (Entries.nodup_put distinct key value) fun p member => ?_
  rcases Entries.of_mem_put member with rfl | member
  · exact hv
  · exact json p member

theorem isJson_putPath {data : Entries} {value : Value} (h : (Value.dict data).IsJson)
    (hv : value.IsJson) (path : List String) :
    (Value.dict (putPath data value path)).IsJson := by
  induction path generalizing data with
  | nil => exact h
  | cons part rest ih =>
    cases rest with
    | nil => exact isJson_put h hv part
    | cons next rest =>
      rw [putPath]
      · refine isJson_put h (ih ?_) part
        split
        next found => exact h.of_dict.2 _ (Entries.mem_of_find? found)
        next => exact isJson_nothing
      · exact List.cons_ne_nil _ _

/-! ## Data that a file stands for -/

/-- The file at a path stands for data: it cannot be used and they are the defaults, it was merged
with these, or it is the data. -/
inductive Stored (disk : Disk) (path : Path) (defaults data : Entries) : Prop where
  | unusable {message : String} (unread : readFile disk path false = .error message)
      (same : data = mergeDefaults [] defaults) : Stored disk path defaults data
  | merged {entries : Entries} (found : readFile disk path false = .ok entries)
      (shallow : (Value.dict entries).IsShallow)
      (same : data = mergeDefaults entries defaults) : Stored disk path defaults data
  | written (found : readFile disk path false = .ok (Value.sortedEntries data)) :
      Stored disk path defaults data

/-- What every operation keeps: the data can be written to a file, and are dirty unless the file
stands for them. -/
structure Backed (disk : Disk) (s : Store) : Prop where
  json : (Value.dict s.data).IsJson
  present : s.dirty = false → ∃ entry, disk.lookUp s.path = .ok (some entry)
  stored : s.dirty = false → Stored disk s.path s.defaults s.data

section

variable {disk disk' : Disk} {s : Store}

theorem Stored.of_readFile {path : Path} {defaults data : Entries}
    (h : Stored disk path defaults data)
    (unchanged : readFile disk' path false = readFile disk path false) :
    Stored disk' path defaults data := by
  cases h with
  | unusable unread same => exact .unusable (unchanged.trans unread) same
  | merged found shallow same => exact .merged (unchanged.trans found) shallow same
  | written found => exact .written (unchanged.trans found)

/-- Adding folders to the disk makes no difference. -/
theorem Backed.of_extends (h : Backed disk s) (larger : disk.Extends disk') : Backed disk' s := by
  refine ⟨h.json, fun clean => ?_, fun clean => ?_⟩
  · obtain ⟨entry, present⟩ := h.present clean
    exact ⟨entry, larger.lookUp present⟩
  · obtain ⟨entry, present⟩ := h.present clean
    exact (h.stored clean).of_readFile (readFile_extends larger present)

/-- Dirty data need no file. -/
theorem backed_of_dirty (json : (Value.dict s.data).IsJson) (dirty : s.dirty = true) :
    Backed disk s := by
  refine ⟨json, fun clean => ?_, fun clean => ?_⟩
  · cases dirty.symm.trans clean
  · cases dirty.symm.trans clean

/-- No store can load the file at a path. -/
inductive Unloadable (disk : Disk) (path : Path) : Prop where
  | unreachable {e : DiskError} (failed : disk.lookUp path = .error e) : Unloadable disk path
  | tooDeep {entry : DiskEntry} {entries : Entries} (present : disk.lookUp path = .ok (some entry))
      (found : readFile disk path false = .ok entries) (deep : ¬ (Value.dict entries).IsShallow) :
      Unloadable disk path

theorem Unloadable.of_extends {path : Path} (h : Unloadable disk path)
    (larger : disk.Extends disk') : Unloadable disk' path := by
  cases h with
  | unreachable failed => exact .unreachable (larger.lookUp_error failed)
  | tooDeep present found deep =>
    have same := readFile_extends larger present
    exact .tooDeep (larger.lookUp present) (same.trans found) deep

theorem Unloadable.load_fails {s : Store} (h : Unloadable disk s.path) :
    (s.load disk).2 ≠ none := by
  cases h with
  | unreachable failed =>
    rw [Store.load_unreachable failed]
    exact Option.some_ne_none _
  | tooDeep present found deep =>
    rw [Store.load_tooDeep present found deep]
    exact Option.some_ne_none _

/-! ## What an operation does -/

/-- The path and the defaults of a store stay as they are. -/
structure SameFile (s s' : Store) : Prop where
  path : s'.path = s.path
  defaults : s'.defaults = s.defaults

theorem SameFile.trans {s s' s'' : Store} (h : SameFile s s') (h' : SameFile s' s'') :
    SameFile s s'' :=
  ⟨h'.path.trans h.path, h'.defaults.trans h.defaults⟩

/-- Loading fails and changes no data, or it leaves data that the file stands for. -/
theorem load_cases (disk : Disk) {s : Store} (defaults : (Value.dict s.defaults).IsJson) :
    (∃ lastError f, s.load disk = ({ s with lastError }, some f) ∧ Unloadable disk s.path) ∨
      ∃ s', s.load disk = (s', none) ∧ SameFile s s' ∧ Backed disk s' := by
  cases looked : disk.lookUp s.path with
  | error e =>
    exact .inl ⟨s.lastError, _, Store.load_unreachable looked, .unreachable looked⟩
  | ok entry? =>
    cases entry? with
    | none =>
      have json := isJson_mergeEntries isJson_nothing defaults
      exact .inr ⟨_, Store.load_missing looked, ⟨rfl, rfl⟩, backed_of_dirty json rfl⟩
    | some entry =>
      cases read : readFile disk s.path false with
      | error message =>
        have json := isJson_mergeEntries isJson_nothing defaults
        exact .inr ⟨_, Store.load_unreadable looked read, ⟨rfl, rfl⟩, json,
          fun _ => ⟨entry, looked⟩, fun _ => .unusable read rfl⟩
      | ok entries =>
        by_cases shallow : (Value.dict entries).IsShallow
        · have json := isJson_mergeEntries (isJson_readFile read) defaults
          exact .inr ⟨_, Store.load_settings looked read shallow, ⟨rfl, rfl⟩, json,
            fun _ => ⟨entry, looked⟩, fun _ => .merged read shallow rfl⟩
        · exact .inl ⟨none, _, Store.load_tooDeep looked read shallow,
            .tooDeep looked read shallow⟩

/-- Setting fails, finds the value there already, or changes the data and says that it did. -/
theorem set_cases (s : Store) (key : String) (value : Value) :
    (∃ f, s.set key value = .error f) ∨ s.set key value = .ok (false, s) ∨
      s.set key value =
        .ok (true, { s with data := putPath s.data value (pathOf key), dirty := true }) := by
  unfold Store.set
  split
  · exact .inr (.inl rfl)
  · unfold setAt
    split
    · exact .inl ⟨_, rfl⟩
    · exact .inr (.inr rfl)

/-- Data that were written are backed by the file. -/
theorem backed_of_written (json : (Value.dict s.data).IsJson)
    (shallow : (Value.dict s.data).depth ≤ Descent.limit)
    (read : disk.read s.path = .ok (Text.encodeUtf8 (Json.indented (.dict s.data)))) :
    Backed disk s where
  json := json
  present _ := ⟨_, Disk.lookUp_of_read read⟩
  stored _ := .written ((readFile_of_read read).trans (readSettings_indented json shallow _))

/-! ## Steps and runs -/

/-- The values that are set can be written to a file. -/
def StoreStep.IsJson : StoreStep → Prop
  | .set _ value => value.IsJson
  | _ => True

/-- What operations leave: the data as they were, on a disk with more folders at most, or data
backed by the file. -/
inductive Leaves (r r' : StoreRun) : Prop where
  | kept {lastError : Option String} (same : r'.store = { r.store with lastError })
      (larger : r.disk.Extends r'.disk) : Leaves r r'
  | backed (file : SameFile r.store r'.store) (backed : Backed r'.disk r'.store) : Leaves r r'

section

variable {r r' : StoreRun}

theorem Leaves.sameFile (h : Leaves r r') : SameFile r.store r'.store := by
  cases h with
  | kept same _ => exact ⟨by rw [same], by rw [same]⟩
  | backed file _ => exact file

theorem Leaves.json (h : Leaves r r') (data : (Value.dict r.store.data).IsJson) :
    (Value.dict r'.store.data).IsJson := by
  cases h with
  | kept same _ => rw [same]; exact data
  | backed _ backed => exact backed.json

/-- Backed data stay backed. -/
theorem Leaves.of_backed (h : Leaves r r') (start : Backed r.disk r.store) :
    Backed r'.disk r'.store := by
  cases h with
  | kept same larger =>
    obtain ⟨json, present, stored⟩ := start.of_extends larger
    rw [same]
    exact ⟨json, present, stored⟩
  | backed _ backed => exact backed

theorem Leaves.trans {r'' : StoreRun} (h : Leaves r r') (h' : Leaves r' r'') : Leaves r r'' := by
  cases h' with
  | backed file backed => exact .backed (h.sameFile.trans file) backed
  | kept same' larger' =>
    cases h with
    | kept same larger =>
      rw [same] at same'
      exact .kept same' (larger.trans larger')
    | backed file backed =>
      have after : Leaves r' r'' := .kept same' larger'
      exact .backed (file.trans after.sameFile) (after.of_backed backed)

theorem leaves_step (data : (Value.dict r.store.data).IsJson)
    (defaults : (Value.dict r.store.defaults).IsJson) {step : StoreStep} (json : step.IsJson) :
    Leaves r (r.step step) := by
  cases step with
  | get key fallback => exact .kept rfl (.refl _)
  | load =>
    rw [StoreRun.step]
    obtain ⟨lastError, f, failed, -⟩ | ⟨s', loaded, file, backed⟩ := load_cases r.disk defaults
    · rw [failed]
      exact .kept rfl (.refl _)
    · rw [loaded]
      exact .backed file backed
  | set key value =>
    rw [StoreRun.step]
    obtain ⟨f, failed⟩ | same | changed := set_cases r.store key value
    · rw [failed]
      exact .kept rfl (.refl _)
    · rw [same]
      exact .kept rfl (.refl _)
    · rw [changed]
      exact .backed ⟨rfl, rfl⟩ (backed_of_dirty (isJson_putPath data json _) rfl)
  | save =>
    rw [StoreRun.step]
    obtain ⟨disk', reason, failed, larger, -⟩ | ⟨disk', saved, shallow, read, -⟩ :=
      r.store.save_cases r.disk
    · rw [failed]
      exact .kept rfl larger
    · rw [saved]
      exact .backed ⟨rfl, rfl⟩ (backed_of_written data shallow read)

theorem leaves_run (data : (Value.dict r.store.data).IsJson)
    (defaults : (Value.dict r.store.defaults).IsJson) {steps : List StoreStep}
    (json : ∀ step ∈ steps, step.IsJson) : Leaves r (r.run steps) := by
  induction steps generalizing r with
  | nil => exact .kept rfl (.refl _)
  | cons step rest ih =>
    obtain ⟨here, later⟩ := List.forall_mem_cons.mp json
    have first := leaves_step data defaults here
    exact first.trans (ih (first.json data) (first.sameFile.defaults ▸ defaults) later)

end

/-! ## A new store -/

theorem isShallow_mergeDefaults {entries defaults : Entries} (json : (Value.dict entries).IsJson)
    (json' : (Value.dict defaults).IsJson) (h : (Value.dict entries).IsShallow)
    (h' : (Value.dict defaults).IsShallow) :
    (Value.dict (mergeDefaults entries defaults)).IsShallow := by
  have within {v : Value} (h : v.IsShallow) : v.depth ≤ Descent.limit / 2 := by
    unfold Value.IsShallow at h
    omega
  have depth := depth_mergeValue_le json json' (within h) (within h')
  rw [mergeValue_dict] at depth
  unfold Value.IsShallow mergeDefaults
  omega

/-- What a new store gets from the file of another one, and when it gets anything. -/
structure Reloads (disk : Disk) (s fresh : Store) : Prop where
  exact : (fresh.load disk).2 = none →
    (Value.dict (fresh.load disk).1.data).Alike (.dict (mergeDefaults s.data fresh.defaults))
  usable : (fresh.load disk).2 = none ↔ (Value.dict s.data).IsShallow

theorem reloads_of_load {s fresh u : Store} (loaded : fresh.load disk = (u, none))
    (alike : (Value.dict u.data).Alike (.dict (mergeDefaults s.data fresh.defaults)))
    (shallow : (Value.dict s.data).IsShallow) : Reloads disk s fresh := by
  constructor
  · rw [loaded]
    exact fun _ => alike
  · rw [loaded]
    exact ⟨fun _ => shallow, fun _ => rfl⟩

/-- Entries that were merged once are merged again in the same way. -/
theorem reloads_merged {s fresh u : Store} (loaded : fresh.load disk = (u, none))
    {entries : Entries} (got : u.data = mergeDefaults entries fresh.defaults)
    (same : s.data = mergeDefaults entries fresh.defaults) (json : (Value.dict entries).IsJson)
    (json' : (Value.dict fresh.defaults).IsJson) (shallow : (Value.dict entries).IsShallow)
    (shallow' : (Value.dict fresh.defaults).IsShallow) : Reloads disk s fresh := by
  refine reloads_of_load loaded ?_ ?_
  · rw [got, same, mergeDefaults, mergeDefaults, mergeEntries_mergeEntries json']
    exact .refl _
  · rw [same]
    exact isShallow_mergeDefaults json json' shallow shallow'

theorem isShallow_sortedEntries {entries : Entries} (json : (Value.dict entries).IsJson) :
    (Value.dict (Value.sortedEntries entries)).IsShallow ↔ (Value.dict entries).IsShallow := by
  have depth := json.depth_sorted
  rw [Value.sorted] at depth
  rw [Value.IsShallow, Value.IsShallow, depth]

theorem alike_mergeDefaults_sorted {entries defaults : Entries}
    (json : (Value.dict entries).IsJson) (json' : (Value.dict defaults).IsJson) :
    (Value.dict (mergeDefaults (Value.sortedEntries entries) defaults)).Alike
      (.dict (mergeDefaults entries defaults)) := by
  have alike := alike_mergeValue json.alike_sorted json'
  rw [Value.sorted, mergeValue_dict, mergeValue_dict] at alike
  exact alike

/-- A store that loads the file of clean data has the data with the defaults. -/
theorem Backed.reloads {s : Store} (h : Backed disk s) (clean : s.dirty = false) {fresh : Store}
    (file : SameFile fresh s) (json : (Value.dict fresh.defaults).IsJson)
    (shallow : (Value.dict fresh.defaults).IsShallow) : Reloads disk s fresh := by
  obtain ⟨entry, present⟩ := h.present clean
  have stored := h.stored clean
  rw [file.path] at present stored
  rw [file.defaults] at stored
  cases stored with
  | unusable unread same =>
    have loaded := Store.load_unreadable present unread
    exact reloads_merged loaded rfl same isJson_nothing json (by decide) shallow
  | merged found usable same =>
    have loaded := Store.load_settings present found usable
    exact reloads_merged loaded rfl same (isJson_readFile found) json usable shallow
  | written found =>
    by_cases usable : (Value.dict s.data).IsShallow
    · have sorted := (isShallow_sortedEntries h.json).mpr usable
      have loaded := Store.load_settings present found sorted
      exact reloads_of_load loaded (alike_mergeDefaults_sorted h.json json) usable
    · have deep := mt (isShallow_sortedEntries h.json).mp usable
      have failed := Store.load_tooDeep present found deep
      have fails : (fresh.load disk).2 ≠ none := by
        rw [failed]
        exact Option.some_ne_none _
      exact ⟨fun loaded => absurd loaded fails,
        fun loaded => absurd loaded fails, fun shallow => absurd shallow usable⟩

section

variable {fresh : Store} {steps : List StoreStep} {r : StoreRun}

/-- After a first load that did not fail, the file can be loaded unless the data are too deep. -/
theorem reloads_of_opened (json : (Value.dict fresh.defaults).IsJson)
    (shallow : (Value.dict fresh.defaults).IsShallow) (values : ∀ step ∈ steps, step.IsJson)
    (opened : (fresh.load disk).2 = none)
    (ran : StoreRun.run (.load :: steps) ⟨disk, fresh⟩ = r) (clean : r.store.dirty = false) :
    Reloads r.disk r.store fresh := by
  obtain ⟨lastError, f, failed, -⟩ | ⟨s, loaded, first, backed⟩ := load_cases disk json
  · rw [failed] at opened
    cases opened
  · rw [StoreRun.run, List.foldl_cons, StoreRun.step, loaded] at ran
    have left := leaves_run (r := ⟨disk, s⟩) backed.json (first.defaults ▸ json) values
    rw [StoreRun.run, ran] at left
    exact (left.of_backed backed).reloads clean (first.trans left.sameFile) json shallow

/-- After a first load that failed, the file cannot be loaded until it is written. -/
theorem reloads_of_unopened (data : fresh.data = []) (json : (Value.dict fresh.defaults).IsJson)
    (shallow : (Value.dict fresh.defaults).IsShallow) (values : ∀ step ∈ steps, step.IsJson)
    (failed : (fresh.load disk).2 ≠ none)
    (ran : StoreRun.run (.load :: steps) ⟨disk, fresh⟩ = r) (clean : r.store.dirty = false) :
    (fresh.load r.disk).2 ≠ none ∨ Reloads r.disk r.store fresh := by
  obtain ⟨lastError, f, fails, unloadable⟩ | ⟨s, loaded, -, -⟩ := load_cases disk json
  · rw [StoreRun.run, List.foldl_cons, StoreRun.step, fails] at ran
    have empty : (Value.dict fresh.data).IsJson := data ▸ isJson_nothing
    have left := leaves_run (r := ⟨disk, { fresh with lastError }⟩) empty json values
    rw [StoreRun.run, ran] at left
    cases left with
    | kept _ larger => exact .inl (unloadable.of_extends larger).load_fails
    | backed file backed =>
      have file : SameFile fresh r.store := ⟨file.path, file.defaults⟩
      exact .inr (backed.reloads clean file json shallow)
  · rw [loaded] at failed
    exact absurd rfl failed

end

/-- **A clean store loses nothing.** Take a run that begins with a load and leaves the store clean.
A new store that loads the file gets the data with the defaults, but for the order of keys. It does
load the file if the first load did not fail, except where the data are too deep to be copied. There
is no store whose defaults are that deep. -/
theorem reload_of_clean {disk : Disk} {path : Path} {defaults : Entries} {steps : List StoreStep}
    {r : StoreRun} (json : (Value.dict defaults).IsJson) (shallow : (Value.dict defaults).IsShallow)
    (values : ∀ step ∈ steps, step.IsJson)
    (ran : StoreRun.run (.load :: steps) ⟨disk, { path, defaults }⟩ = r)
    (clean : r.store.dirty = false) :
    let fresh : Store := { path, defaults }
    ((fresh.load r.disk).2 = none → (Value.dict (fresh.load r.disk).1.data).Alike
      (.dict (mergeDefaults r.store.data defaults))) ∧
    ((fresh.load disk).2 = none →
      ((fresh.load r.disk).2 = none ↔ (Value.dict r.store.data).IsShallow)) := by
  intro fresh
  by_cases opened : (fresh.load disk).2 = none
  · have reloads := reloads_of_opened json shallow values opened ran clean
    exact ⟨reloads.exact, fun _ => reloads.usable⟩
  · refine ⟨fun loaded => ?_, fun other => absurd other opened⟩
    rcases reloads_of_unopened rfl json shallow values opened ran clean with
      fails | reloads
    · exact absurd loaded fails
    · exact reloads.exact loaded

/-! ## Two runs -/

/-- In an empty folder there is room for a file. -/
theorem save_beside {s : Store} (path : s.path = besidePath)
    (fits : (Value.dict s.data).Fits Descent.limit) :
    ∃ disk', StoreRun.step .save ⟨{}, s⟩ =
      ⟨disk', { s with dirty := false, lastError := none }⟩ := by
  have folders : Disk.makeFolders true s.path.parent {} = ({}, none) := by
    rw [path]
    rfl
  have text : s.text = .ok (Json.indented (.dict s.data)) :=
    Store.text_of_writable fits.depth fits.json.not_holdsLong
  have written (bytes : List UInt8) : Disk.write {} s.path bytes =
      .ok (Disk.put {} ["settings.json"] (.file bytes)) := by
    rw [path]
    rfl
  unfold StoreRun.step Store.save
  simp only [folders, text, written]
  exact ⟨_, rfl⟩

/-- A value that is set in a new file, and saved. -/
theorem run_beside {key : String} {value : Value} {s loaded changed : Store}
    (load : StoreRun.step .load ⟨{}, s⟩ = ⟨{}, loaded⟩)
    (set : StoreRun.step (.set key value) ⟨{}, loaded⟩ = ⟨{}, changed⟩)
    (path : changed.path = besidePath)
    (fits : (Value.dict changed.data).Fits Descent.limit) :
    ∃ disk', StoreRun.run [.load, .set key value, .save] ⟨{}, s⟩ =
      ⟨disk', { changed with dirty := false, lastError := none }⟩ := by
  obtain ⟨disk', saved⟩ := save_beside path fits
  refine ⟨disk', ?_⟩
  rw [StoreRun.run, List.foldl_cons, load, List.foldl_cons, set, List.foldl_cons, saved]
  rfl

/-- A text takes the place of a default, and its neighbour stays. -/
theorem reload_of_clean_text :
    let defaults : Entries := [("a", .dict [("b", .int 1), ("c", .null)])]
    let saved : Entries := [("a", .dict [("b", .text "é\n"), ("c", .null)])]
    let steps : List StoreStep := [.set "a.b" (.text "é\n"), .save]
    let s : Store := { path := besidePath, defaults }
    let r := StoreRun.run (.load :: steps) ⟨{}, s⟩
    ((Value.dict defaults).IsJson ∧ (Value.dict defaults).IsShallow ∧
      (∀ step ∈ steps, step.IsJson) ∧ r.store.dirty = false) ∧
    (s.load r.disk).2 = none ∧ (Value.dict (s.load r.disk).1.data).Alike (.dict saved) := by
  intro defaults saved steps s r
  have settings {v : Value} (h : v.IsJson) :
      (Value.dict [("a", .dict [("b", v), ("c", .null)])]).IsJson := by
    have inner : (Value.dict [("b", v), ("c", .null)]).IsJson := by
      refine .dict ?_ (List.forall_mem_cons.mpr ⟨h, ?_⟩)
      · show ["b", "c"].Nodup
        decide
      · exact List.forall_mem_singleton.mpr .null
    exact .dict (List.nodup_singleton _) (List.forall_mem_singleton.mpr inner)
  have json : (Value.dict defaults).IsJson := settings (.int (by decide))
  have shallow : (Value.dict defaults).IsShallow := by decide
  have values : ∀ step ∈ steps, step.IsJson :=
    List.forall_mem_cons.mpr ⟨.text _, List.forall_mem_singleton.mpr trivial⟩
  have loaded : StoreRun.step .load ⟨{}, s⟩ =
    ⟨{}, { s with data := defaults, dirty := true }⟩ := rfl
  have changed : StoreRun.step (.set "a.b" (.text "é\n"))
    ⟨{}, { s with data := defaults, dirty := true }⟩ =
    ⟨{}, { s with data := saved, dirty := true }⟩ := rfl
  have fits : (Value.dict saved).Fits Descent.limit := ⟨settings (.text _), by decide⟩
  obtain ⟨disk', left⟩ := run_beside loaded changed rfl fits
  have ran : StoreRun.run (.load :: steps) ⟨{}, s⟩ = r := rfl
  clear_value r
  have clean : r.store.dirty = false := by rw [← ran, left]
  have data : r.store.data = saved := by rw [← ran, left]
  have opened : (s.load {}).2 = none := rfl
  have merged : mergeDefaults saved defaults = saved := rfl
  obtain ⟨exact', usable⟩ := reload_of_clean json shallow values ran clean
  have reloaded := (usable opened).mpr (by rw [data]; decide)
  rw [data, merged] at exact'
  exact ⟨⟨json, shallow, values, clean⟩, reloaded, exact' reloaded⟩

/-- Lists in lists are saved, but a new store cannot load them. -/
theorem nested_not_reloaded :
    let steps : List StoreStep := [.set "a" (.nested 600), .save]
    let s : Store := { path := besidePath, defaults := [] }
    let r := StoreRun.run (.load :: steps) ⟨{}, s⟩
    (∀ step ∈ steps, step.IsJson) ∧ (s.load {}).2 = none ∧ r.store.dirty = false ∧
      (s.load r.disk).2 ≠ none := by
  intro steps s r
  let saved : Entries := [("a", .nested 600)]
  have nested : (Value.nested 600).IsJson := Value.isJson_nested 600
  have values : ∀ step ∈ steps, step.IsJson :=
    List.forall_mem_cons.mpr ⟨nested, List.forall_mem_singleton.mpr trivial⟩
  have depth : (Value.dict saved).depth = 601 := by
    rw [Value.depth, Value.depthOfEntries, Value.depthOfEntries, Value.depth_nested]
    rfl
  have deep : ¬ (Value.dict saved).IsShallow := by
    unfold Value.IsShallow
    rw [depth]
    decide
  have loaded : StoreRun.step .load ⟨{}, s⟩ = ⟨{}, { s with data := [], dirty := true }⟩ := rfl
  have changed : StoreRun.step (.set "a" (.nested 600))
    ⟨{}, { s with data := [], dirty := true }⟩ = ⟨{}, { s with data := saved, dirty := true }⟩ := rfl
  have fits : (Value.dict saved).Fits Descent.limit :=
    ⟨.dict (List.nodup_singleton _) (List.forall_mem_singleton.mpr nested), by rw [depth]; decide⟩
  obtain ⟨disk', left⟩ := run_beside loaded changed rfl fits
  have ran : StoreRun.run (.load :: steps) ⟨{}, s⟩ = r := rfl
  clear_value r
  have clean : r.store.dirty = false := by rw [← ran, left]
  have data : r.store.data = saved := by rw [← ran, left]
  have opened : (s.load {}).2 = none := rfl
  have reloads := reloads_of_opened isJson_nothing (by decide) values opened ran clean
  refine ⟨values, opened, clean, fun reloaded => deep ?_⟩
  rw [← data]
  exact reloads.usable.mp reloaded

end

end LiveLint.Settings
