import LiveLint.Text.Printable

/-! Quoted texts: one line of printable characters between quotation marks, in
which everything else is written as an escape. -/

namespace LiveLint.Text

def hexDigit (n : Nat) : Char :=
  if n < 10 then Char.ofNat (48 + n) else Char.ofNat (87 + n)

/-- The lowest `width` digits of `n` in base sixteen, in lower case. -/
def hexDigits : Nat → Nat → List Char
  | 0, _ => []
  | width + 1, n => hexDigits width (n / 16) ++ [hexDigit (n % 16)]

/-- The single quotation mark, unless the text holds it and no double one. -/
def quoteMark (cs : List Char) : Char :=
  if cs.contains '\'' && !cs.contains '"' then '"' else '\''

def quoteChar (mark c : Char) : List Char :=
  if c = mark || c = '\\' then ['\\', c]
  else if c = '\n' then ['\\', 'n']
  else if c = '\r' then ['\\', 'r']
  else if c = '\t' then ['\\', 't']
  else if isPrintable c then [c]
  else if c.toNat < 0x100 then '\\' :: 'x' :: hexDigits 2 c.toNat
  else if c.toNat < 0x10000 then '\\' :: 'u' :: hexDigits 4 c.toNat
  else '\\' :: 'U' :: hexDigits 8 c.toNat

def quoted (s : String) : String :=
  let cs := s.toList
  let mark := quoteMark cs
  String.ofList (mark :: cs.flatMap (quoteChar mark) ++ [mark])

end LiveLint.Text
