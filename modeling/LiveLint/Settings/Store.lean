import LiveLint.Settings.Disk
import LiveLint.Settings.Tree
import LiveLint.Settings.LintConfig
import LiveLint.Json.Reader
import LiveLint.Json.Printer
import LiveLint.Text.Utf8
import LiveLint.Text.LineBreak

/-! Settings kept in a file. Loading never writes, and a file that cannot be used leaves the
defaults and a message; only where its path is too long or its data goes too deep, loading
fails. Saving writes all or reports why it could not. -/

namespace LiveLint.Settings

/-- Where settings are kept: in the directory given by the environment, else in one of the
home directory. -/
def defaultPath (directory : Option String) (homes : Homes) : Except Fault Path := do
  let given := Text.trim (directory.getD "")
  let base ← if given.isEmpty then (homes.find "").map (·.child ".lintpad")
    else (Path.ofText given).expandHome homes
  .ok (base.child "settings.json")

/-- The settings of the whole program where a file gives none. -/
def appDefaults : Entries :=
  [("lint", ({} : LintConfig).toValue),
    ("editor", .dict [("font_family", .text "Monospace"), ("font_size", .int 11),
      ("tab_width", .int 4)]),
    ("window", .dict [("width", .int 1100), ("height", .int 760)])]

structure Store where
  path : Path
  defaults : Entries := appDefaults
  data : Entries := []
  dirty : Bool := false
  lastError : Option String := none

/-- The settings in a file's bytes, or why there are none. -/
def readSettings (path : Path) (bytes : List UInt8) : Except String Entries :=
  match Text.decodeUtf8 bytes with
  | .error e => .error e.message
  | .ok s =>
    match Json.read (Text.unifyNewlines s) with
    | .error e => .error e.message
    | .ok (.dict entries) => .ok entries
    | .ok v =>
      .error ("Settings root in '" ++ path.text ++ "' must be a JSON object, found " ++
        v.typeName ++ ".")

/-- What the file at a path holds: no settings if it is missing. -/
def readFile (disk : Disk) (path : Path) (missing : Bool) : Except String Entries :=
  if missing then .ok []
  else match disk.read path with
    | .ok bytes => readSettings path bytes
    | .error e => .error e.message

namespace Store

/-- Load the settings, with the defaults for what the file lacks. Where that fails the data
stays as it was. -/
def load (disk : Disk) (s : Store) : Store × Option Fault :=
  match disk.lookUp s.path with
  | .error e => (s, some e.fault)
  | .ok entry =>
    let loaded := fun (entries : Entries) (lastError : Option String) =>
      { s with data := mergeDefaults entries s.defaults, dirty := entry.isNone, lastError }
    match readFile disk s.path entry.isNone with
    | .error message => (loaded [] (some message), none)
    | .ok entries => match (Value.dict entries).copy with
      | .error e => ({ s with lastError := none }, some e)
      | .ok _ => (loaded entries none, none)

/-- A copy of the data, in which later changes do not show. -/
def snapshot (s : Store) : Except Fault Value := (Value.dict s.data).copy

/-- The text that saving writes. -/
def text (s : Store) : Except Fault String :=
  match Json.unwritable? Descent.limit (.dict s.data) with
  | some e => .error e
  | none => .ok (Json.indented (.dict s.data))

/-- Save the data; on failure the store stays as it is, but folders may have been made. -/
def save (disk : Disk) (s : Store) : Disk × Except Fault Store :=
  match disk.makeFolders true s.path.parent with
  | (disk, some e) => (disk, failed e.message)
  | (disk, none) => match s.text with
    | .error e => (disk, failed e.message)
    | .ok text => match disk.write s.path (Text.encodeUtf8 text) with
      | .error e => (disk, failed e.message)
      | .ok disk => (disk, .ok { s with dirty := false, lastError := none })
where
  failed (reason : String) : Except Fault Store := .error (.notSaved s.path.text reason)

def get (s : Store) (key : String) (fallback : Value) : Value := getAt s.data key fallback

/-- Set a value and say whether it changed anything. -/
def set (s : Store) (key : String) (value : Value) : Except Fault (Bool × Store) :=
  if (s.get key .null).same value then .ok (false, s)
  else do
    let data ← setAt s.data key value
    .ok (true, { s with data, dirty := true })

def lintConfig (s : Store) : LintConfig := .ofValue (s.get "lint" (.dict []))

end Store
end LiveLint.Settings
