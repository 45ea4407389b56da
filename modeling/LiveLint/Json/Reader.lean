import LiveLint.Value

/-! Reading JSON. Every reader works on the characters that are left and returns those
after it, so a place in the text is a number of characters left. An error names the
first place where no text could continue, as line, column and offset. -/

namespace LiveLint.Json
open LiveLint.Text LiveLint.Number

inductive Reason where
  | value
  | name
  | colon
  | comma
  | openString
  | control
  | escape
  | unicodeEscape
  | extra
  | byteOrderMark
  deriving DecidableEq

def Reason.message : Reason → String
  | value => "Expecting value"
  | name => "Expecting property name enclosed in double quotes"
  | colon => "Expecting ':' delimiter"
  | comma => "Expecting ',' delimiter"
  | openString => "Unterminated string starting at"
  | control => "Invalid control character at"
  | escape => "Invalid \\escape"
  | unicodeEscape => "Invalid \\uXXXX escape"
  | extra => "Extra data"
  | byteOrderMark => "Unexpected UTF-8 BOM (decode using utf-8-sig)"

/-- A reader stops with a reason and the number of characters left, at an integer with too
many digits, or at a bracket that opens one level too many. -/
inductive Stop where
  | at (reason : Reason) (left : Nat)
  | tooLong (digits : Nat)
  | tooDeep (during : Descent)
  deriving DecidableEq

inductive Error where
  | at (reason : Reason) (line column offset : Nat)
  | tooLong (digits : Nat)
  | tooDeep (during : Descent)
  deriving DecidableEq

def Error.message : Error → String
  | .at reason line column offset =>
    reason.message ++ ": line " ++ toString line ++ " column " ++ toString column ++
      " (char " ++ toString offset ++ ")"
  | tooLong n => (Fault.integerTooLong n).message
  | tooDeep during => (Fault.tooDeep during).message

/-- The place after `before` as line and column, both from one. -/
def lineColumn (before : List Char) : Nat × Nat :=
  (before.count '\n' + 1, (before.reverse.takeWhile (· != '\n')).length + 1)

def Stop.locate (doc : List Char) : Stop → Error
  | .at reason left =>
    let offset := doc.length - left
    let (line, column) := lineColumn (doc.take offset)
    .at reason line column offset
  | tooLong n => .tooLong n
  | tooDeep during => .tooDeep during

def isSpace (c : Char) : Bool := c == ' ' || c == '\t' || c == '\n' || c == '\r'

def skipSpace (cs : List Char) : List Char := cs.dropWhile isSpace

def hexValue? (c : Char) : Option Nat :=
  if '0' ≤ c && c ≤ '9' then some (c.toNat - 48)
  else if 'a' ≤ c && c ≤ 'f' then some (c.toNat - 87)
  else if 'A' ≤ c && c ≤ 'F' then some (c.toNat - 55)
  else none

def hex4? (a b c d : Char) : Option Nat :=
  match hexValue? a, hexValue? b, hexValue? c, hexValue? d with
  | some w, some x, some y, some z => some (((w * 16 + x) * 16 + y) * 16 + z)
  | _, _, _, _ => none

def escaped? : Char → Option Char
  | '"' => some '"'
  | '\\' => some '\\'
  | '/' => some '/'
  | 'b' => some '\x08'
  | 'f' => some '\x0c'
  | 'n' => some '\n'
  | 'r' => some '\r'
  | 't' => some '\t'
  | _ => none

def isHighSurrogate (n : Nat) : Bool := 0xd800 ≤ n && n < 0xdc00

def isLowSurrogate (n : Nat) : Bool := 0xdc00 ≤ n && n < 0xe000

def joinSurrogates (high low : Nat) : Char :=
  Char.ofNat (0x10000 + (high - 0xd800) * 0x400 + (low - 0xdc00))

/-- A surrogate without its partner is no character. Readers whose texts are made of code units
keep it; here, where texts are made of characters, it becomes the replacement character. -/
def loneUnit (n : Nat) : Char :=
  if 0xd800 ≤ n && n < 0xe000 then '\ufffd' else Char.ofNat n

def prepend (c : Char) (r : Except Stop (List Char × List Char)) :
    Except Stop (List Char × List Char) :=
  r.map fun p => (c :: p.1, p.2)

/-- The characters of a string up to its closing quote; `opening` is the place of
the opening one. A four-digit escape must be followed by a further character. -/
def readChars (opening : Nat) : List Char → Except Stop (List Char × List Char)
  | [] => .error (.at .openString opening)
  | '"' :: r => .ok ([], r)
  | '\\' :: 'u' :: a :: b :: c :: d :: r =>
    if r.isEmpty then .error (.at .unicodeEscape 5)
    else match hex4? a b c d with
      | none => .error (.at .unicodeEscape (r.length + 5))
      | some n =>
        match r with
        | '\\' :: 'u' :: e :: f :: g :: h :: next :: rest =>
          if isHighSurrogate n then
            match hex4? e f g h with
            | none => .error (.at .unicodeEscape (rest.length + 6))
            | some k =>
              if isLowSurrogate k then
                prepend (joinSurrogates n k) (readChars opening (next :: rest))
              else
                prepend (loneUnit n)
                  (readChars opening ('\\' :: 'u' :: e :: f :: g :: h :: next :: rest))
          else
            prepend (loneUnit n)
              (readChars opening ('\\' :: 'u' :: e :: f :: g :: h :: next :: rest))
        | r => prepend (loneUnit n) (readChars opening r)
  | '\\' :: 'u' :: r => .error (.at .unicodeEscape (r.length + 1))
  | '\\' :: c :: r => match escaped? c with
    | some x => prepend x (readChars opening r)
    | none => .error (.at .escape (r.length + 2))
  | '\\' :: [] => .error (.at .openString opening)
  | c :: r =>
    if c.toNat ≤ 0x1f then .error (.at .control (r.length + 1))
    else prepend c (readChars opening r)

/-- A whole number without superfluous zeros. -/
def takeWhole : List Char → Option (List Char × List Char)
  | '0' :: r => some (['0'], r)
  | c :: r =>
    if isAsciiDigit c then some (c :: r.takeWhile isAsciiDigit, r.dropWhile isAsciiDigit)
    else none
  | [] => none

/-- A point and the digits after it, if there are any. -/
def takeFraction : List Char → List Char × List Char
  | '.' :: r =>
    if (r.takeWhile isAsciiDigit).isEmpty then ([], '.' :: r)
    else (r.takeWhile isAsciiDigit, r.dropWhile isAsciiDigit)
  | r => ([], r)

def takeExponent : List Char → Option Int × List Char
  | [] => (none, [])
  | c :: r =>
    let (negative, body) := takeSign r
    let ds := body.takeWhile isAsciiDigit
    if (c == 'e' || c == 'E') && !ds.isEmpty then
      let n := natOfDigits ds
      (some (if negative then -(n : Int) else n), body.dropWhile isAsciiDigit)
    else (none, c :: r)

/-- A number; one with a fraction or an exponent is binary. -/
def readNumber (cs : List Char) : Except Stop (Value × List Char) :=
  let (negative, body) := match cs with
    | '-' :: r => (true, r)
    | r => (false, r)
  match takeWhole body with
  | none => .error (.at .value cs.length)
  | some (whole, rest) =>
    let (fraction, rest) := takeFraction rest
    let (exponent, rest) := takeExponent rest
    if fraction.isEmpty && exponent.isNone then
      if digitLimit < whole.length then .error (.tooLong whole.length)
      else
        let n := natOfDigits whole
        .ok (.int (if negative then -(n : Int) else n), rest)
    else
      let digits := (whole ++ fraction).dropWhile (· == '0')
      let x := Binary64.ofDecimal negative (natOfDigits digits) digits.length
        (exponent.getD 0 - fraction.length)
      .ok (.float x, rest)

/-- The words that stand for values of their own. -/
def readWord? : List Char → Option (Value × List Char)
  | 'n' :: 'u' :: 'l' :: 'l' :: r => some (.null, r)
  | 't' :: 'r' :: 'u' :: 'e' :: r => some (.bool true, r)
  | 'f' :: 'a' :: 'l' :: 's' :: 'e' :: r => some (.bool false, r)
  | 'N' :: 'a' :: 'N' :: r => some (.float .nan, r)
  | 'I' :: 'n' :: 'f' :: 'i' :: 'n' :: 'i' :: 't' :: 'y' :: r =>
    some (.float (.infinite false), r)
  | '-' :: 'I' :: 'n' :: 'f' :: 'i' :: 'n' :: 'i' :: 't' :: 'y' :: r =>
    some (.float (.infinite true), r)
  | _ => none

mutual

/-- A value at the start of the text, in which so many levels may open. The first argument
bounds the steps; twice the length of the text is enough. -/
def readValue : Nat → Nat → List Char → Except Stop (Value × List Char)
  | 0, _, cs => .error (.at .value cs.length)
  | fuel + 1, levels, cs => match cs with
    | '"' :: r => (readChars cs.length r).map fun p => (.text (String.ofList p.1), p.2)
    | '[' :: r => match levels, skipSpace r with
      | 0, _ => .error (.tooDeep .readingList)
      | _, ']' :: rest => .ok (.list [], rest)
      | levels + 1, rest => (readItems fuel levels rest).map fun p => (.list p.1, p.2)
    | '\x7b' :: r => match levels, skipSpace r with
      | 0, _ => .error (.tooDeep .readingDict)
      | _, '\x7d' :: rest => .ok (.dict [], rest)
      | levels + 1, rest =>
        (readEntries fuel levels rest).map fun p => (.dict (Entries.ofPairs p.1), p.2)
    | _ => match readWord? cs with
      | some p => .ok p
      | none => readNumber cs

/-- The items of a list from the first one to the closing bracket. -/
def readItems : Nat → Nat → List Char → Except Stop (List Value × List Char)
  | 0, _, cs => .error (.at .value cs.length)
  | fuel + 1, levels, cs => do
    let (v, r) ← readValue fuel levels cs
    match skipSpace r with
    | ']' :: rest => .ok ([v], rest)
    | ',' :: rest =>
      let (items, rest) ← readItems fuel levels (skipSpace rest)
      .ok (v :: items, rest)
    | rest => .error (.at .comma rest.length)

/-- The entries of a dictionary from the first name to the closing brace. -/
def readEntries : Nat → Nat → List Char → Except Stop (List (String × Value) × List Char)
  | 0, _, cs => .error (.at .name cs.length)
  | fuel + 1, levels, cs => match cs with
    | '"' :: r => do
      let (key, r) ← readChars cs.length r
      match skipSpace r with
      | ':' :: r =>
        let (v, r) ← readValue fuel levels (skipSpace r)
        match skipSpace r with
        | '\x7d' :: rest => .ok ([(String.ofList key, v)], rest)
        | ',' :: rest =>
          let (entries, rest) ← readEntries fuel levels (skipSpace rest)
          .ok ((String.ofList key, v) :: entries, rest)
        | rest => .error (.at .comma rest.length)
      | rest => .error (.at .colon rest.length)
    | _ => .error (.at .name cs.length)

end

/-- A document: one value with space around it. -/
def readDocument (doc : List Char) : Except Stop Value :=
  match doc with
  | '\ufeff' :: r => .error (.at .byteOrderMark (r.length + 1))
  | _ => do
    let (v, r) ← readValue (2 * doc.length + 2) Descent.limit (skipSpace doc)
    match skipSpace r with
    | [] => .ok v
    | rest => .error (.at .extra rest.length)

def read (s : String) : Except Error Value :=
  (readDocument s.toList).mapError (Stop.locate s.toList)

end LiveLint.Json
