import LiveLint.Text.Quoted

/-! UTF-8, strictly and with replacement. One step reads either a character or a piece
that no character starts with; strict reading stops there, the other one writes a
replacement character for each such piece. -/

namespace LiveLint.Text

/-- Why a sequence of bytes is no character. -/
inductive Utf8Flaw where
  | badStart
  | badContinuation
  | cutOff
  deriving DecidableEq

def Utf8Flaw.reason : Utf8Flaw → String
  | badStart => "invalid start byte"
  | badContinuation => "invalid continuation byte"
  | cutOff => "unexpected end of data"

/-- A character, or the length of a bad piece. -/
inductive Utf8Step where
  | char (c : Char)
  | flaw (length : Nat) (why : Utf8Flaw)

/-- What the first byte says: how many bytes follow, the range of the second one, and
the bits that the first one gives. -/
def utf8Lead (b : Nat) : Option (Nat × Nat × Nat × Nat) :=
  if b < 0x80 then some (0, 0, 0, b)
  else if b < 0xc2 then none
  else if b < 0xe0 then some (1, 0x80, 0xbf, b - 0xc0)
  else if b = 0xe0 then some (2, 0xa0, 0xbf, 0)
  else if b = 0xed then some (2, 0x80, 0x9f, 0xd)
  else if b < 0xf0 then some (2, 0x80, 0xbf, b - 0xe0)
  else if b = 0xf0 then some (3, 0x90, 0xbf, 0)
  else if b < 0xf4 then some (3, 0x80, 0xbf, b - 0xf0)
  else if b = 0xf4 then some (3, 0x80, 0x8f, 4)
  else none

/-- Read `count` more bytes, of which the first lies in the given range, onto `value`. -/
def utf8Tail (value read low high : Nat) : Nat → List UInt8 → Utf8Step
  | 0, _ => .char (Char.ofNat value)
  | _ + 1, [] => .flaw read .cutOff
  | count + 1, b :: rest =>
    if low ≤ b.toNat && b.toNat ≤ high then
      utf8Tail (value * 64 + (b.toNat - 0x80)) (read + 1) 0x80 0xbf count rest
    else .flaw read .badContinuation

/-- The step at a byte with others behind it. -/
def utf8Step (b : UInt8) (rest : List UInt8) : Utf8Step :=
  match utf8Lead b.toNat with
  | none => .flaw 1 .badStart
  | some (count, low, high, value) => utf8Tail value 1 low high count rest

def utf8Width (c : Char) : Nat :=
  if c.toNat < 0x80 then 1 else if c.toNat < 0x800 then 2 else if c.toNat < 0x10000 then 3 else 4

/-- A place in the bytes where strict reading stopped. -/
structure Utf8Error where
  first : UInt8
  position : Nat
  length : Nat
  why : Utf8Flaw
  deriving DecidableEq

def Utf8Error.message (e : Utf8Error) : String :=
  (if e.length = 1 then
    "'utf-8' codec can't decode byte 0x" ++ String.ofList (hexDigits 2 e.first.toNat) ++
      " in position " ++ toString e.position
  else
    "'utf-8' codec can't decode bytes in position " ++ toString e.position ++ "-" ++
      toString (e.position + e.length - 1)) ++ ": " ++ e.why.reason

/-- The characters after `skip` bytes that belong to the one before; `position` counts
the bytes read. -/
def decodeStrictFrom (position : Nat) : Nat → List UInt8 → Except Utf8Error (List Char)
  | _, [] => .ok []
  | skip + 1, _ :: rest => decodeStrictFrom (position + 1) skip rest
  | 0, b :: rest =>
    match utf8Step b rest with
    | .char c => (decodeStrictFrom (position + 1) (utf8Width c - 1) rest).map (c :: ·)
    | .flaw length why => .error ⟨b, position, length, why⟩

def decodeUtf8 (bytes : List UInt8) : Except Utf8Error String :=
  (decodeStrictFrom 0 0 bytes).map String.ofList

def decodeReplacingFrom : Nat → List UInt8 → List Char
  | _, [] => []
  | skip + 1, _ :: rest => decodeReplacingFrom skip rest
  | 0, b :: rest =>
    match utf8Step b rest with
    | .char c => c :: decodeReplacingFrom (utf8Width c - 1) rest
    | .flaw length _ => '\ufffd' :: decodeReplacingFrom (length - 1) rest

/-- Every piece that is no character becomes one replacement character. -/
def decodeReplacing (bytes : List UInt8) : String := String.ofList (decodeReplacingFrom 0 bytes)

/-- The bytes of a character. -/
def encodeUtf8Char (c : Char) : List UInt8 :=
  let n := c.toNat
  let more (k : Nat) : UInt8 := UInt8.ofNat (0x80 + n / Nat.pow 64 k % 64)
  if n < 0x80 then [UInt8.ofNat n]
  else if n < 0x800 then [UInt8.ofNat (0xc0 + n / 64), more 0]
  else if n < 0x10000 then [UInt8.ofNat (0xe0 + n / Nat.pow 64 2), more 1, more 0]
  else [UInt8.ofNat (0xf0 + n / Nat.pow 64 3), more 2, more 1, more 0]

def encodeUtf8 (s : String) : List UInt8 := s.toList.flatMap encodeUtf8Char

end LiveLint.Text
