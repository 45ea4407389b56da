import LiveLint.Text.Utf8

/-! Form encoding. Letters, digits and `_.-~` stand for themselves, a plus sign for a
space, and every other byte is a percent sign and two hexadecimal digits. -/

namespace LiveLint.Text

def isFormSafe (n : Nat) : Bool :=
  (48 ≤ n && n ≤ 57) || (65 ≤ n && n ≤ 90) || (97 ≤ n && n ≤ 122) ||
    n == 95 || n == 46 || n == 45 || n == 126

/-- A hexadecimal digit in upper case. -/
def upperHexDigit (n : Nat) : Char := if n < 10 then Char.ofNat (48 + n) else Char.ofNat (55 + n)

def formByte (b : UInt8) : List Char :=
  let n := b.toNat
  if isFormSafe n then [Char.ofNat n]
  else if n = 32 then ['+']
  else ['%', upperHexDigit (n / 16), upperHexDigit (n % 16)]

def formEncode (s : String) : String := String.ofList ((encodeUtf8 s).flatMap formByte)

end LiveLint.Text
