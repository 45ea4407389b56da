import LiveLint.Fault
import LiveLint.Text.Split

/-! Paths of files, kept in a plain form: no empty parts and no single dots, and a root of
two slashes only where exactly two were given. -/

namespace LiveLint

structure Path where
  root : String := ""
  parts : List String := []
  deriving DecidableEq, Inhabited

namespace Path

def rootOf (cs : List Char) : String :=
  match (cs.takeWhile (· == '/')).length with
  | 0 => ""
  | 2 => "//"
  | _ => "/"

def ofText (s : String) : Path where
  root := rootOf s.toList
  parts := (Text.splitAt '/' s).filter fun p => !p.isEmpty && p != "."

def joinParts : List String → String
  | [] => ""
  | [p] => p
  | p :: rest => p ++ "/" ++ joinParts rest

def text (p : Path) : String :=
  if p.root.isEmpty && p.parts.isEmpty then "." else p.root ++ joinParts p.parts

def child (p : Path) (name : String) : Path := { p with parts := p.parts ++ [name] }

def parent (p : Path) : Path := { p with parts := p.parts.dropLast }

/-- The path and the folders above it, up to its root. -/
def ancestry (p : Path) : List Path :=
  (List.range (p.parts.length + 1)).map fun n =>
    { p with parts := p.parts.take (p.parts.length - n) }

/-- Nothing is found at a path with a null character. -/
def hasNull (p : Path) : Bool := p.parts.any (·.toList.contains '\x00')

end Path

/-- Home directories: one's own and those of other accounts by their names. -/
structure Homes where
  own : String
  others : List (String × String) := []

namespace Homes

/-- The accounts of a system, one a line: the name is the first field, the home the sixth. -/
def ofAccounts (own accounts : String) : Homes where
  own := own
  others := (Text.splitAt '\n' accounts).filterMap fun line =>
    match Text.splitAt ':' line with
    | name :: _ :: _ :: _ :: _ :: home :: _ => some (name, home)
    | _ => none

/-- A home directory as a path. -/
def pathOf (home : String) : Except Fault Path :=
  let cs := (home.toList.reverse.dropWhile (· == '/')).reverse
  if cs.head? == some '~' then .error .unknownHome
  else .ok (if cs.isEmpty then ⟨"/", []⟩ else Path.ofText (String.ofList cs))

/-- The home of an account; without a name it is one's own. -/
def find (homes : Homes) (account : String) : Except Fault Path :=
  if account.isEmpty then pathOf homes.own
  else if account.toList.contains '\x00' then .error .nullCharacter
  else match homes.others.find? (·.1 == account) with
    | some (_, home) => pathOf home
    | none => .error .unknownHome

end Homes

/-- Replace a leading `~`, or `~` with the name of an account, by the home directory. -/
def Path.expandHome (homes : Homes) (p : Path) : Except Fault Path :=
  match p.root.isEmpty, p.parts with
  | true, first :: rest => match first.toList with
    | '~' :: account => do
      let home ← homes.find (String.ofList account)
      .ok { home with parts := home.parts ++ rest }
    | _ => .ok p
  | _, _ => .ok p

end LiveLint
