import LiveLint.Settings.Path

/-! Files and folders, as far as settings need them. A path leads through folders only, and
`..` leads back; each operation fails for the first reason that stands in its way. What was
made before a failure stays. -/

namespace LiveLint

inductive DiskError where
  | missing (path : Path)
  | exists (path : Path)
  | noFolder (path : Path)
  | isFolder (path : Path)
  /-- The path is too long, or a name that it leads to. -/
  | tooLong (path : Path)
  /-- Too many folders to make. -/
  | tooDeep
  | nullCharacter
  deriving DecidableEq

namespace DiskError

def kind : DiskError → String
  | missing _ => "FileNotFoundError"
  | «exists» _ => "FileExistsError"
  | noFolder _ => "NotADirectoryError"
  | isFolder _ => "IsADirectoryError"
  | tooLong _ => "OSError"
  | tooDeep => (Fault.tooDeep .makingFolders).kind
  | nullCharacter => Fault.nullCharacter.kind

def message : DiskError → String
  | missing p => "[Errno 2] No such file or directory: " ++ Text.quoted p.text
  | «exists» p => "[Errno 17] File exists: " ++ Text.quoted p.text
  | noFolder p => "[Errno 20] Not a directory: " ++ Text.quoted p.text
  | isFolder p => "[Errno 21] Is a directory: " ++ Text.quoted p.text
  | tooLong p => "[Errno 36] File name too long: " ++ Text.quoted p.text
  | tooDeep => (Fault.tooDeep .makingFolders).message
  | nullCharacter => Fault.nullCharacter.message

def fault (e : DiskError) : Fault := .raised e.kind e.message

end DiskError

inductive DiskEntry where
  | folder
  | file (bytes : List UInt8)
  deriving DecidableEq

/-- Entries by the names that lead to them; the empty path is a folder. -/
structure Disk where
  entries : List (List String × DiskEntry) := []
  /-- The folder from which paths without a root lead. -/
  working : List String := []
  deriving Inhabited

namespace Disk

def at? (d : Disk) (names : List String) : Option DiskEntry :=
  if names.isEmpty then some .folder else (d.entries.find? (·.1 == names)).map (·.2)

def put (d : Disk) (names : List String) (e : DiskEntry) : Disk :=
  { d with entries := (names, e) :: d.entries.filter (·.1 != names) }

/-- Names have at most this many bytes. -/
def nameLimit : Nat := 255

/-- Paths have fewer bytes than this. -/
def pathLimit : Nat := 4096

/-- Where a path leads from a folder: the last name need not exist. A name counts only when
it is reached. -/
def walk (d : Disk) (path : Path) (folder : List String) :
    List String → Except DiskError (List String)
  | [] => .ok folder
  | name :: rest =>
    let next := if name = ".." then folder.dropLast else folder ++ [name]
    if nameLimit < name.utf8ByteSize then .error (.tooLong path)
    else if rest.isEmpty then .ok next
    else match d.at? next with
      | some .folder => walk d path next rest
      | some (.file _) => .error (.noFolder path)
      | none => .error (.missing path)

def resolve (d : Disk) (path : Path) : Except DiskError (List String) :=
  if path.hasNull then .error .nullCharacter
  else if pathLimit ≤ path.text.utf8ByteSize then .error (.tooLong path)
  else d.walk path (if path.root.isEmpty then d.working else []) path.parts

/-- What a path leads to, if it leads anywhere. What is too long cannot be looked up. -/
def lookUp (d : Disk) (path : Path) : Except DiskError (Option DiskEntry) :=
  match d.resolve path with
  | .ok names => .ok (d.at? names)
  | .error (.tooLong p) => .error (.tooLong p)
  | .error _ => .ok none

def isFile (d : Disk) (path : Path) : Except DiskError Bool := do
  match ← d.lookUp path with
  | some (.file _) => .ok true
  | _ => .ok false

def isFolder (d : Disk) (path : Path) : Bool :=
  match d.lookUp path with
  | .ok (some .folder) => true
  | _ => false

def read (d : Disk) (path : Path) : Except DiskError (List UInt8) := do
  match d.at? (← d.resolve path) with
  | some (.file bytes) => .ok bytes
  | some .folder => .error (.isFolder path)
  | none => .error (.missing path)

def write (d : Disk) (path : Path) (bytes : List UInt8) : Except DiskError Disk := do
  let names ← d.resolve path
  match d.at? names with
  | some .folder => .error (.isFolder path)
  | _ => .ok (d.put names (.file bytes))

/-- Make one folder, in a folder that exists. If it `mayExist`, one that is there already is
no failure. -/
def makeFolder (mayExist : Bool) (path : Path) (d : Disk) : Except DiskError Disk :=
  match made with
  | .ok d => .ok d
  | .error e => if mayExist && d.isFolder path then .ok d else .error e
where
  made : Except DiskError Disk := do
    let names ← d.resolve path
    match d.at? names with
    | some _ => .error (.exists path)
    | none => .ok (d.put names .folder)

/-- Make the first folder of an ancestry, and those above it only if they are missing. Those
may exist: a path that leads back can make a folder it needs twice. -/
def makeAncestry (mayExist : Bool) (d : Disk) : Nat → List Path → Disk × Option DiskError
  | _, [] => (d, none)
  | 0, _ => (d, some .tooDeep)
  | levels + 1, path :: above =>
    match d.makeFolder mayExist path with
    | .ok d => (d, none)
    | .error (.missing p) =>
      if above.isEmpty then (d, some (.missing p))
      else match makeAncestry true d levels above with
        | (d, some e) => (d, some e)
        | (d, none) => match d.makeFolder mayExist path with
          | .ok d => (d, none)
          | .error e => (d, some e)
    | .error e => (d, some e)

/-- Make a folder and those above it. -/
def makeFolders (mayExist : Bool) (path : Path) (d : Disk) : Disk × Option DiskError :=
  d.makeAncestry mayExist Descent.limit path.ancestry

/-- Write a file, in a folder that is made if it is missing. -/
def writeInFolder (path : Path) (bytes : List UInt8) (d : Disk) : Disk × Option DiskError :=
  match d.makeFolders true path.parent with
  | (d, some e) => (d, some e)
  | (d, none) => match d.write path bytes with
    | .ok d => (d, none)
    | .error e => (d, some e)

end Disk
end LiveLint
