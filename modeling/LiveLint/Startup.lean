import LiveLint.Settings.Disk
import LiveLint.Text.Blank

/-! The command line: one file to open, and the settings file after `--settings`. -/

namespace LiveLint.Startup

structure Arguments where
  file : Option String := none
  settings : Option String := none
  deriving DecidableEq

/-- Read the arguments left to right. The last settings file and the first file count; other
options are passed over, and a `--settings` at the very end is one of those. -/
def readFrom (a : Arguments) : List String → Arguments
  | [] => a
  | [arg] => file a arg
  | arg :: value :: rest =>
    if arg = "--settings" then readFrom { a with settings := some value } rest
    else readFrom (file a arg) (value :: rest)
where
  file (a : Arguments) (arg : String) : Arguments :=
    if a.file.isNone && arg.toList.head? != some '-' then { a with file := some arg } else a

def read (args : List String) : Arguments := readFrom {} args

/-- The file to open at the start, if there is one of that name. A name that is too long is
a fault. -/
def existingFile (disk : Disk) (homes : Homes) (file : Option String) :
    Except Fault (Option Path) :=
  let s := Text.trim (file.getD "")
  if s.isEmpty then .ok none
  else do
    let path ← (Path.ofText s).expandHome homes
    let found ← (disk.isFile path).mapError DiskError.fault
    .ok (if found then some path else none)

end LiveLint.Startup
