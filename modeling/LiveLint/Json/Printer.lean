import LiveLint.Value

/-! Printing JSON in ASCII, on one line or, for files, with two blanks of indentation
a level and the names of each dictionary in ascending order. What has too many levels, or
integers with too many digits, is not written to files. -/

namespace LiveLint.Json
open LiveLint.Text

def unitEscape (n : Nat) : List Char := '\\' :: 'u' :: hexDigits 4 n

def printChar (c : Char) : List Char :=
  if c = '"' then ['\\', '"']
  else if c = '\\' then ['\\', '\\']
  else if c = '\n' then ['\\', 'n']
  else if c = '\r' then ['\\', 'r']
  else if c = '\t' then ['\\', 't']
  else if c = '\x08' then ['\\', 'b']
  else if c = '\x0c' then ['\\', 'f']
  else if 0x20 ≤ c.toNat && c.toNat ≤ 0x7e then [c]
  else if c.toNat < 0x10000 then unitEscape c.toNat
  else
    let n := c.toNat - 0x10000
    unitEscape (0xd800 + n / 0x400) ++ unitEscape (0xdc00 + n % 0x400)

def printText (s : String) : List Char := '"' :: s.toList.flatMap printChar ++ ['"']

def printNumber : Binary64 → List Char
  | .nan => "NaN".toList
  | .infinite s => (if s then "-Infinity" else "Infinity").toList
  | x => (Decimal.text x).toList

/-- A value without parts. -/
def printAtom : Value → List Char
  | .null => "null".toList
  | .bool b => (if b then "true" else "false").toList
  | .int n => (toString n).toList
  | .float x => printNumber x
  | .text s => printText s
  | .list _ => "[]".toList
  | .dict _ => ['\x7b', '\x7d']

mutual

def printCompact : Value → List Char
  | .list items => '[' :: printCompactItems items ++ [']']
  | .dict entries => '\x7b' :: printCompactEntries entries ++ ['\x7d']
  | v => printAtom v

def printCompactItems : List Value → List Char
  | [] => []
  | [v] => printCompact v
  | v :: rest => printCompact v ++ ',' :: printCompactItems rest

def printCompactEntries : List (String × Value) → List Char
  | [] => []
  | [(k, v)] => printText k ++ ':' :: printCompact v
  | (k, v) :: rest => printText k ++ ':' :: printCompact v ++ ',' :: printCompactEntries rest

end

def compact (v : Value) : String := String.ofList (printCompact v)

def newline (depth : Nat) : List Char := '\n' :: List.replicate (2 * depth) ' '

/-- Insertion by name. -/
def insertEntry {α : Type} (e : String × α) : List (String × α) → List (String × α)
  | [] => [e]
  | f :: rest => if e.1 ≤ f.1 then e :: f :: rest else f :: insertEntry e rest

/-- Printed parts, each on a line of its own, with commas between them. -/
def printLines (depth : Nat) : List (List Char) → List Char
  | [] => []
  | [p] => newline depth ++ p
  | p :: rest => newline depth ++ p ++ ',' :: printLines depth rest

mutual

/-- A value whose closing bracket, if any, stands at `depth`. -/
def printIndented (depth : Nat) : Value → List Char
  | .list (v :: rest) =>
    '[' :: printLines (depth + 1) (indentedItems (depth + 1) (v :: rest)) ++ newline depth ++ [']']
  | .dict (e :: rest) =>
    '\x7b' :: printLines (depth + 1) ((indentedEntries (depth + 1) (e :: rest)).map (·.2)) ++
      newline depth ++ ['\x7d']
  | v => printAtom v

def indentedItems (depth : Nat) : List Value → List (List Char)
  | [] => []
  | v :: rest => printIndented depth v :: indentedItems depth rest

/-- The printed entries with their names, sorted by name. -/
def indentedEntries (depth : Nat) : List (String × Value) → List (String × List Char)
  | [] => []
  | (k, v) :: rest =>
    insertEntry (k, printText k ++ ':' :: ' ' :: printIndented depth v)
      (indentedEntries depth rest)

end

/-- The text of a settings file. -/
def indented (v : Value) : String := String.ofList (printIndented 0 v)

mutual

/-- What stops the writing of a value where so many levels may open: an integer with too many
digits or one level too many, whichever comes first. -/
def unwritable? : Nat → Value → Option Fault
  | _, .int n =>
    if Number.digitLimit < (digitsOfNat n.natAbs).length then some .unwritableInteger else none
  | 0, .list _ | 0, .dict _ => some (.tooDeep .writing)
  | levels + 1, .list items => unwritableItem? levels items
  | levels + 1, .dict entries => (unwritableEntries levels entries).findSome? (·.2)
  | _, _ => none

def unwritableItem? : Nat → List Value → Option Fault
  | _, [] => none
  | levels, v :: rest => (unwritable? levels v).or (unwritableItem? levels rest)

/-- What stops the writing of each entry, sorted by name. -/
def unwritableEntries : Nat → List (String × Value) → List (String × Option Fault)
  | _, [] => []
  | levels, (k, v) :: rest => insertEntry (k, unwritable? levels v) (unwritableEntries levels rest)

end

end LiveLint.Json
