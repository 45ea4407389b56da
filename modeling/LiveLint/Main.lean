import LiveLint.Settings.Store
import LiveLint.Startup

/-! The command line: `[--settings PATH] [FILE]`. It prints the settings of linting that the
settings file comes to, after what is wrong with that file, and names the file to open. -/

namespace LiveLint.CommandLine

/-- Put the file of that path, as it is now, on a disk. -/
def fetch (path : Path) (disk : Disk) : IO Disk := do
  let bytes ← (some <$> IO.FS.readBinFile path.text) <|> pure none
  pure (match bytes, disk.resolve path with
    | some content, .ok names => disk.put names (.file content.toList)
    | _, _ => disk)

/-- Put the folders above a path on a disk, so that it can be looked up. -/
def withFolders (path : Path) (disk : Disk) : Disk := (disk.makeFolders true path.parent).1

/-- The path of the settings file. -/
def settingsPath (a : Startup.Arguments) (folder : Option String) (homes : Homes) :
    Except Fault Path :=
  match a.settings with
  | some given =>
    if given.isEmpty then Settings.defaultPath folder homes else .ok (Path.ofText given)
  | none => Settings.defaultPath folder homes

end LiveLint.CommandLine

open LiveLint LiveLint.CommandLine in
/-- Print the settings of linting and the file to open. -/
def main (args : List String) : IO UInt32 := do
  let arguments := Startup.read args
  let accounts ← IO.FS.readFile "/etc/passwd" <|> pure ""
  let homes := Homes.ofAccounts ((← IO.getEnv "HOME").getD "") accounts
  let folder ← IO.getEnv "LINTPAD_SETTINGS_DIR"
  match settingsPath arguments folder homes with
  | .error fault =>
    IO.eprintln fault.message
    pure 1
  | .ok path =>
    let disk ← fetch path (withFolders path {})
    let (store, fault) := Settings.Store.load disk { path }
    if let some message := store.lastError <|> fault.map (·.message) then IO.eprintln message
    IO.println (Json.indented store.lintConfig.toValue)
    if let some name := arguments.file then
      let given := Path.ofText (Text.trim name)
      let target := (given.expandHome homes).toOption.getD given
      let disk ← fetch target (withFolders target {})
      match Startup.existingFile disk homes name with
      | .ok (some found) => IO.println found.text
      | .ok none => pure ()
      | .error fault => IO.eprintln fault.message
    pure 0
