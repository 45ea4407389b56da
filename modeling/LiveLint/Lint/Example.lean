import LiveLint.Json.Reader
import LiveLint.Text.Utf8
import LiveLint.Text.LineBreak
import LiveLint.Text.LowerCase

/-! Examples of good and bad text for each kind of finding, and the table in which
they are looked up. -/

namespace LiveLint

structure Example where
  kind : String
  name : String := ""
  bad : String := ""
  badExplanation : String := ""
  good : String := ""
  goodExplanation : String := ""
  deriving DecidableEq, Inhabited

/-- The kind that a value names, in the form in which kinds are compared. -/
def kindName (v : Value) : String := Text.lower (Text.trim v.displayOrEmpty)

namespace Example

/-- An entry of an example file; entries without a kind are left out. -/
def ofValue? (v : Value) : Option Example :=
  let kind := kindName (v.field "kind")
  if kind.isEmpty then none
  else some {
    kind
    name := (v.field "name").displayOrEmpty
    bad := (v.field "bad").displayOrEmpty
    badExplanation := (v.field "bad_explanation").displayOrEmpty
    good := (v.field "good").displayOrEmpty
    goodExplanation := (v.field "good_explanation").displayOrEmpty }

def listOfValue : Value → List Example
  | .list items => items.filterMap ofValue?
  | _ => []

end Example

/-- Examples in buckets by kind, in the order in which the kinds first came. -/
structure ExampleTable where
  buckets : List (String × List Example) := []
  deriving DecidableEq, Inhabited

namespace ExampleTable

def addTo (e : Example) : List (String × List Example) → List (String × List Example)
  | [] => [(e.kind, [e])]
  | (k, es) :: rest => if k = e.kind then (k, es ++ [e]) :: rest else (k, es) :: addTo e rest

def ofList (examples : List Example) : ExampleTable :=
  ⟨examples.foldl (fun buckets e => addTo e buckets) []⟩

/-- The table of a file's bytes; a missing file and one that cannot be read give an
empty table, unless it cannot be read because it goes too deep. -/
def ofFile (content : Option (List UInt8)) : Except Fault ExampleTable :=
  match content with
  | none => .ok {}
  | some bytes =>
    match Text.decodeUtf8 bytes with
    | .error _ => .ok {}
    | .ok s =>
      match Json.read (Text.unifyNewlines s) with
      | .error (.tooDeep during) => .error (.tooDeep during)
      | .error _ => .ok {}
      | .ok v => .ok (ofList (Example.listOfValue v))

def lookup (t : ExampleTable) (kind : Value) : List Example :=
  ((t.buckets.find? (·.1 == kindName kind)).map (·.2)).getD []

def insertKind (k : String) : List String → List String
  | [] => [k]
  | l :: rest => if k ≤ l then k :: l :: rest else l :: insertKind k rest

/-- The kinds in ascending order. -/
def kinds (t : ExampleTable) : List String := t.buckets.foldr (fun b ks => insertKind b.1 ks) []

def size (t : ExampleTable) : Nat := (t.buckets.flatMap (·.2)).length

end ExampleTable
end LiveLint
