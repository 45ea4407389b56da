import LiveLint.Proofs.Json.Document
import LiveLint.Proofs.Settings.Folders
import LiveLint.Settings.Store

/-! # Loading settings

What loading does is decided by what stands at the path: nothing that can be looked up, nothing at
all, a file or folder without usable settings, or a file with settings. Settings that go too deep
to be copied make loading fail; the others are merged with the defaults. -/

namespace LiveLint

namespace Value

/-- Deeper values cannot be copied. -/
def IsShallow (v : Value) : Prop := 2 * v.depth ≤ Descent.limit

instance (v : Value) : Decidable v.IsShallow := inferInstanceAs (Decidable (_ ≤ _))

theorem IsShallow.copy_eq {v : Value} (h : v.IsShallow) : v.copy = .ok v := if_pos h

theorem copy_tooDeep {v : Value} (h : ¬ v.IsShallow) : v.copy = .error (.tooDeep .copying) :=
  if_neg h

/-- A value with so many lists in one another. -/
def nested : Nat → Value
  | 0 => null
  | n + 1 => list [nested n]

theorem depth_nested (n : Nat) : (nested n).depth = n := by
  induction n with
  | zero => rfl
  | succ n ih => rw [nested, depth, depthOfItems, depthOfItems, ih, Nat.max_zero]

theorem isJson_nested (n : Nat) : (nested n).IsJson := by
  induction n with
  | zero => exact .null
  | succ n ih => exact .list (List.forall_mem_singleton.mpr ih)

theorem sorted_nested (n : Nat) : (nested n).sorted = nested n := by
  induction n with
  | zero => rfl
  | succ n ih => rw [nested, sorted, sortedItems, sortedItems, ih]

end Value

namespace Settings

theorem readFile_of_read {disk : Disk} {path : Path} {bytes : List UInt8}
    (h : disk.read path = .ok bytes) : readFile disk path false = readSettings path bytes := by
  rw [readFile, if_neg Bool.false_ne_true, h]

/-- A document without CR is read as it was written. -/
theorem readSettings_document {path : Path} {text : String} {entries : Entries}
    (oneLine : '\r' ∉ text.toList) (h : Json.readDocument text.toList = .ok (.dict entries)) :
    readSettings path (Text.encodeUtf8 text) = .ok entries := by
  have read : Json.read text = .ok (.dict entries) := by
    rw [Json.read, h]
    rfl
  simp only [readSettings, Text.decodeUtf8_encodeUtf8, Text.unifyNewlines_eq_self oneLine, read]

/-- What is saved is read back, with its keys in order. -/
theorem readSettings_indented {entries : Entries} (json : (Value.dict entries).IsJson)
    (shallow : (Value.dict entries).depth ≤ Descent.limit) (path : Path) :
    readSettings path (Text.encodeUtf8 (Json.indented (.dict entries))) =
      .ok (Value.sortedEntries entries) := by
  have printed := Json.printIndented_printed json 0
  have document := Json.readDocument_printed json shallow
  rw [← String.toList_ofList (l := Json.printIndented 0 (.dict entries))] at printed document
  rw [Value.sorted] at document
  refine readSettings_document ?_ document
  exact fun member => (printed _ member).ne_return rfl

namespace Store

variable {disk : Disk} {s : Store}

theorem load_unreachable {e : DiskError} (h : disk.lookUp s.path = .error e) :
    s.load disk = (s, some e.fault) := by
  rw [load, h]

theorem load_missing (h : disk.lookUp s.path = .ok none) :
    s.load disk =
      ({ s with data := mergeDefaults [] s.defaults, dirty := true, lastError := none }, none) := by
  rw [load, h]
  rfl

variable {entry : DiskEntry}

theorem load_unreadable {message : String} (h : disk.lookUp s.path = .ok (some entry))
    (unread : readFile disk s.path false = .error message) :
    s.load disk = ({ s with
      data := mergeDefaults [] s.defaults, dirty := false, lastError := some message }, none) := by
  simp only [load, h, Option.isNone_some, unread]

theorem load_settings {entries : Entries} (h : disk.lookUp s.path = .ok (some entry))
    (found : readFile disk s.path false = .ok entries) (shallow : (Value.dict entries).IsShallow) :
    s.load disk = ({ s with
      data := mergeDefaults entries s.defaults, dirty := false, lastError := none }, none) := by
  simp only [load, h, Option.isNone_some, found, shallow.copy_eq]

theorem load_tooDeep {entries : Entries} (h : disk.lookUp s.path = .ok (some entry))
    (found : readFile disk s.path false = .ok entries) (deep : ¬ (Value.dict entries).IsShallow) :
    s.load disk = ({ s with lastError := none }, some (.tooDeep .copying)) := by
  simp only [load, h, Option.isNone_some, found, Value.copy_tooDeep deep]

end Store

/-! ## A file in the working folder -/

def besidePath : Path := ⟨"", ["settings.json"]⟩

def diskWith (bytes : List UInt8) : Disk where
  entries := [(["settings.json"], .file bytes)]

theorem read_diskWith (bytes : List UInt8) : (diskWith bytes).read besidePath = .ok bytes := by
  have found : (diskWith bytes).lookUp besidePath = .ok (some (.file bytes)) :=
    Disk.lookUp_eq_some_iff.mpr ⟨["settings.json"], rfl, rfl⟩
  exact Disk.read_of_lookUp found

end Settings
end LiveLint
