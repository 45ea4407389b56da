import LiveLint.Value
import LiveLint.Text.Split

/-! Settings as a tree of dictionaries. A dotted key is a path through it. -/

namespace LiveLint.Settings

/-- The path that a dotted key names: the parts between its dots. -/
def pathOf (key : String) : List String := Text.splitAt '.' key

/-- Follow a path through dictionaries. -/
def followPath (v : Value) : List String → Option Value
  | [] => some v
  | part :: rest => match v with
    | .dict entries => match Entries.find? part entries with
      | some w => followPath w rest
      | none => none
    | _ => none

/-- The value under a dotted key; the empty key names the whole tree. -/
def getAt (data : Entries) (key : String) (fallback : Value) : Value :=
  if key.isEmpty then .dict data else (followPath (.dict data) (pathOf key)).getD fallback

/-- Set the value at a path; what is no dictionary on the way becomes one. -/
def putPath (data : Entries) (value : Value) : List String → Entries
  | [] => data
  | [last] => data.put last value
  | part :: rest =>
    let inner := match Entries.find? part data with
      | some (.dict entries) => entries
      | _ => []
    data.put part (.dict (putPath inner value rest))

def setAt (data : Entries) (key : String) (value : Value) : Except Fault Entries :=
  if key.isEmpty then .error .emptyKey else .ok (putPath data value (pathOf key))

mutual

/-- A default under a value that is there: only dictionaries are merged. -/
def mergeValue (current : Value) : Value → Value
  | .dict defaults => match current with
    | .dict entries => .dict (mergeEntries entries defaults)
    | v => v
  | _ => current

/-- Add to `data`, key by key, what the defaults have and it lacks. -/
def mergeEntries (data : Entries) : List (String × Value) → Entries
  | [] => data
  | (key, fallback) :: rest =>
    match Entries.find? key data with
    | none => mergeEntries (data.put key fallback) rest
    | some current => mergeEntries (data.put key (mergeValue current fallback)) rest

end

/-- The data with what the defaults have in addition, however deep they are. What is merged is a
copy of the data, and that only so many levels can be copied is seen to by `Store.load`. -/
def mergeDefaults (data defaults : Entries) : Entries := mergeEntries data defaults

end LiveLint.Settings
