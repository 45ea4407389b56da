import LiveLint.Text.Quoted

/-! What can go wrong, as causes. Messages show a fault as its kind and its text, so
both are functions of the cause and are written down only here. -/

namespace LiveLint

/-- What goes down level by level, through the parts of a value or the folders of a path. -/
inductive Descent where
  | readingList
  | readingDict
  | writing
  | copying
  | makingFolders
  deriving DecidableEq

/-- So many levels can be gone down. -/
def Descent.limit : Nat := 988

inductive Fault where
  /-- A text that should be an integer. -/
  | badInteger (text : String)
  | integerTooLong (digits : Nat)
  /-- An integer with more digits than are written. -/
  | unwritableInteger
  /-- A value of this type where an integer is needed. -/
  | noInteger (type : String)
  | infinityToInteger
  | nanToInteger
  /-- A text that should be a number. -/
  | badNumber (text : String)
  | noNumber (type : String)
  | integerTooLarge
  | notIterable (type : String)
  | openQuotation
  | openEscape
  | unknownUrl (url : String)
  /-- A bracket that has no partner, or does not enclose a host. -/
  | misplacedBracket
  | badFutureHost
  | bracketedIPv4
  /-- A text in brackets that is no address. -/
  | badHost (text : String)
  | disguisedDelimiter (authority : String)
  | unknownHome
  /-- A path with a null character, or the name of an account with one. -/
  | nullCharacter
  | emptyKey
  | notSaved (path reason : String)
  | unhandledError (type : String)
  /-- A value of this type lacks a field that is needed. -/
  | noField (type field : String)
  /-- There are too many levels to go down. -/
  | tooDeep (during : Descent)
  /-- A failure that a linter, a process, a disk or the network reports. -/
  | raised (kind text : String)
  deriving DecidableEq, Inhabited

namespace Fault

/-- Readers of integers name at most this much of a bad text. -/
def shownLimit : Nat := 200

def kind : Fault → String
  | badInteger _ | integerTooLong _ | unwritableInteger | nanToInteger | badNumber _
  | openQuotation | openEscape | unknownUrl _ | misplacedBracket | badFutureHost | bracketedIPv4
  | badHost _ | disguisedDelimiter _ | nullCharacter | emptyKey => "ValueError"
  | noInteger _ | noNumber _ | notIterable _ | unhandledError _ => "TypeError"
  | infinityToInteger | integerTooLarge => "OverflowError"
  | unknownHome => "RuntimeError"
  | notSaved _ _ => "SettingsStoreError"
  | noField _ _ => "AttributeError"
  | tooDeep _ => "RecursionError"
  | raised k _ => k

def message : Fault → String
  | badInteger s =>
    "invalid literal for int() with base 10: " ++
      String.ofList ((Text.quoted s).toList.take shownLimit)
  | integerTooLong n =>
    "Exceeds the limit (4300 digits) for integer string conversion: value has " ++ toString n ++
      " digits; use sys.set_int_max_str_digits() to increase the limit"
  | unwritableInteger =>
    "Exceeds the limit (4300 digits) for integer string conversion" ++
      "; use sys.set_int_max_str_digits() to increase the limit"
  | noInteger t =>
    "int() argument must be a string, a bytes-like object or a real number, not '" ++ t ++ "'"
  | infinityToInteger => "cannot convert float infinity to integer"
  | nanToInteger => "cannot convert float NaN to integer"
  | badNumber s => "could not convert string to float: " ++ Text.quoted s
  | noNumber t => "float() argument must be a string or a real number, not '" ++ t ++ "'"
  | integerTooLarge => "int too large to convert to float"
  | notIterable t => "'" ++ t ++ "' object is not iterable"
  | openQuotation => "No closing quotation"
  | openEscape => "No escaped character"
  | unknownUrl u => "unknown url type: " ++ Text.quoted u
  | misplacedBracket => "Invalid IPv6 URL"
  | badFutureHost => "IPvFuture address is invalid"
  | bracketedIPv4 => "An IPv4 address cannot be in brackets"
  | badHost s => Text.quoted s ++ " does not appear to be an IPv4 or IPv6 address"
  | disguisedDelimiter a =>
    "netloc '" ++ a ++ "' contains invalid characters under NFKC normalization"
  | nullCharacter => "embedded null byte"
  | unknownHome => "Could not determine home directory."
  | emptyKey => "Key cannot be empty."
  | notSaved path reason => "Could not write settings file '" ++ path ++ "': " ++ reason
  | unhandledError t => "Unhandled lint error type: " ++ t
  | noField t f => "'" ++ t ++ "' object has no attribute '" ++ f ++ "'"
  | tooDeep during => "maximum recursion depth exceeded while " ++ match during with
    | .readingList => "decoding a JSON array from a unicode string"
    | .readingDict => "decoding a JSON object from a unicode string"
    | .writing | .copying | .makingFolders => "calling a Python object"
  | raised k s => if k = "KeyError" then Text.quoted s else s

/-- The fault in one line, as status messages show it. -/
def summary (f : Fault) : String := f.kind ++ ": " ++ f.message

end Fault
end LiveLint
