import LiveLint.Fault
import LiveLint.Number.Decimal
import LiveLint.Number.Reader

/-! Values of settings files and of answers that linters send. A dictionary keeps its
entries in the order in which its keys first came. -/

namespace LiveLint

inductive Value where
  | null
  | bool (b : Bool)
  | int (n : Int)
  | float (x : Binary64)
  | text (s : String)
  | list (items : List Value)
  | dict (entries : List (String × Value))
  deriving Inhabited

/-- The entries of a dictionary, each key once. -/
abbrev Entries := List (String × Value)

namespace Entries

def find? (key : String) : Entries → Option Value
  | [] => none
  | (k, v) :: rest => if k = key then some v else find? key rest

/-- Replace the value where the key stands, or append the entry. -/
def put (key : String) (value : Value) : Entries → Entries
  | [] => [(key, value)]
  | (k, v) :: rest => if k = key then (k, value) :: rest else (k, v) :: put key value rest

/-- A later value of a key replaces an earlier one and takes its place. -/
def ofPairs (pairs : List (String × Value)) : Entries :=
  pairs.foldl (fun d p => put p.1 p.2 d) []

def has (key : String) (d : Entries) : Bool := (d.find? key).isSome

def keys (d : Entries) : List String := d.map (·.1)

end Entries

namespace Value

/-- False are null, zero, and whatever is empty. -/
def isTruthy : Value → Bool
  | null => false
  | bool b => b
  | int n => n != 0
  | float x => !x.isZero
  | text s => !s.isEmpty
  | list items => !items.isEmpty
  | dict entries => !entries.isEmpty

def isDict : Value → Bool
  | dict _ => true
  | _ => false

/-- The value under a key; null where there is none, or where there are no keys. -/
def field (v : Value) (key : String) : Value :=
  match v with
  | dict entries => (Entries.find? key entries).getD null
  | _ => null

/-- This value unless it is false. -/
def orElse (v w : Value) : Value := if v.isTruthy then v else w

def typeName : Value → String
  | null => "NoneType"
  | bool _ => "bool"
  | int _ => "int"
  | float _ => "float"
  | text _ => "str"
  | list _ => "list"
  | dict _ => "dict"

def joinTexts (separator : String) : List String → String
  | [] => ""
  | [s] => s
  | s :: rest => s ++ separator ++ joinTexts separator rest

mutual

/-- The text of a value inside a list or a dictionary, where texts are quoted. -/
def inline : Value → String
  | null => "None"
  | bool b => if b then "True" else "False"
  | int n => toString n
  | float x => Decimal.text x
  | text s => Text.quoted s
  | list items => "[" ++ joinTexts ", " (inlineItems items) ++ "]"
  | dict entries => "\x7b" ++ joinTexts ", " (inlineEntries entries) ++ "\x7d"

def inlineItems : List Value → List String
  | [] => []
  | v :: rest => inline v :: inlineItems rest

def inlineEntries : List (String × Value) → List String
  | [] => []
  | (k, v) :: rest => (Text.quoted k ++ ": " ++ inline v) :: inlineEntries rest

end

mutual

/-- How many lists and dictionaries stand in one another. -/
def depth : Value → Nat
  | list items => depthOfItems items + 1
  | dict entries => depthOfEntries entries + 1
  | _ => 0

def depthOfItems : List Value → Nat
  | [] => 0
  | v :: rest => max (depth v) (depthOfItems rest)

def depthOfEntries : List (String × Value) → Nat
  | [] => 0
  | (_, v) :: rest => max (depth v) (depthOfEntries rest)

end

/-- A copy of a value; it takes two steps a level. -/
def copy (v : Value) : Except Fault Value :=
  if 2 * v.depth ≤ Descent.limit then .ok v else .error (.tooDeep .copying)

/-- The text of a value that stands alone. -/
def display : Value → String
  | text s => s
  | v => v.inline

/-- The text of a value where every false one is empty. -/
def displayOrEmpty (v : Value) : String := if v.isTruthy then v.display else ""

def toInt : Value → Except Fault Int
  | bool b => .ok (if b then 1 else 0)
  | int n => .ok n
  | float .nan => .error .nanToInteger
  | float x => match x.truncate? with
    | some n => .ok n
    | none => .error .infinityToInteger
  | text s => match Number.readInt s with
    | .ok n => .ok n
    | .error .malformed => .error (.badInteger s)
    | .error (.tooLong n) => .error (.integerTooLong n)
  | v => .error (.noInteger v.typeName)

def toBinary : Value → Except Fault Binary64
  | bool b => .ok (if b then .ofRatio false 1 1 else .zero)
  | int n => match Binary64.ofInt? n with
    | some x => .ok x
    | none => .error .integerTooLarge
  | float x => .ok x
  | text s => match Number.readFloat? s with
    | some x => .ok x
    | none => .error (.badNumber s)
  | v => .error (.noNumber v.typeName)

/-- The integer that a number without fraction counts as in comparisons. -/
def asInt? : Value → Option Int
  | bool b => some (if b then 1 else 0)
  | int n => some n
  | _ => none

/-- Equality of atoms: numbers and truth values compare by their exact value. -/
def sameAtom : Value → Value → Bool
  | null, null => true
  | text s, text t => s == t
  | float x, float y => x.same y
  | float x, w => match w.asInt? with
    | some n => x.sameInt n
    | none => false
  | v, float y => match v.asInt? with
    | some n => y.sameInt n
    | none => false
  | v, w => match v.asInt?, w.asInt? with
    | some n, some k => n == k
    | _, _ => false

mutual

/-- Equality of values; the order of dictionary entries does not matter. -/
def same : Value → Value → Bool
  | list xs, w => match w with
    | list ys => sameItems xs ys
    | _ => false
  | dict xs, w => match w with
    | dict ys => xs.length == ys.length && sameEntries xs ys
    | _ => false
  | v, w => sameAtom v w

def sameItems : List Value → List Value → Bool
  | [], ys => ys.isEmpty
  | x :: xs, ys => match ys with
    | [] => false
    | y :: rest => same x y && sameItems xs rest

/-- Every entry has an equal one under the same key. -/
def sameEntries : List (String × Value) → List (String × Value) → Bool
  | [], _ => true
  | (k, x) :: xs, ys => (match Entries.find? k ys with
    | some y => same x y
    | none => false) && sameEntries xs ys

end

end Value
end LiveLint
