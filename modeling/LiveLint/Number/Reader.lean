import LiveLint.Text.Blank
import LiveLint.Text.DecimalDigit
import LiveLint.Number.Binary64

/-! Numbers read from text, as people type them: blanks around, an optional sign,
digits of any script, and single underscores between digits. -/

namespace LiveLint.Number
open LiveLint.Text

/-- The blanks that may stand around a number; the information separators may not. -/
def isMargin (c : Char) : Bool := isBlank c && !(0x1c ≤ c.toNat && c.toNat ≤ 0x1f)

/-- The most digits that an integer is read from, or written with. -/
def digitLimit : Nat := 4300

inductive IntError where
  | malformed
  | tooLong (digits : Nat)
  deriving DecidableEq

/-- The ASCII digit of the same value, for a digit of any script. -/
def plainDigit (c : Char) : Char :=
  if c.toNat < 0x80 then c
  else match digitValue? c with
    | some v => Char.ofNat (48 + v)
    | none => c

/-- Sign and remainder; no sign means positive. -/
def takeSign : List Char → Bool × List Char
  | '-' :: r => (true, r)
  | '+' :: r => (false, r)
  | r => (false, r)

def isDigitOrJoin (c : Char) : Bool := isAsciiDigit c || c == '_'

/-- Every underscore stands between two digits; `afterDigit` says what came before. -/
def joinsDigits (afterDigit : Bool) : List Char → Bool
  | [] => true
  | '_' :: r => afterDigit && (match r with
    | d :: _ => isAsciiDigit d
    | [] => false) && joinsDigits false r
  | c :: r => joinsDigits (isAsciiDigit c) r

def readInt (s : String) : Except IntError Int :=
  let cs := (trimBy isMargin s.toList).map plainDigit
  let (negative, body) := takeSign cs
  let run := body.takeWhile isDigitOrJoin
  let rest := body.dropWhile isDigitOrJoin
  let digits := run.filter isAsciiDigit
  if run.isEmpty || !joinsDigits false run then .error .malformed
  else if digitLimit < digits.length then .error (.tooLong digits.length)
  else if !rest.isEmpty then .error .malformed
  else
    let n := natOfDigits digits
    .ok (if negative then -(n : Int) else n)

/-- An exponent: `e` or `E`, a sign, and digits up to the end. -/
def readExponent? : List Char → Option Int
  | [] => some 0
  | c :: r =>
    let (negative, ds) := takeSign r
    if (c == 'e' || c == 'E') && !ds.isEmpty && ds.all isAsciiDigit then
      let n := natOfDigits ds
      some (if negative then -(n : Int) else n)
    else none

/-- Digits with a point, and an exponent. -/
def readUnsigned? (negative : Bool) (cs : List Char) : Option Binary64 :=
  let whole := cs.takeWhile isAsciiDigit
  let rest := cs.dropWhile isAsciiDigit
  let (fraction, tail) := match rest with
    | '.' :: r => (r.takeWhile isAsciiDigit, r.dropWhile isAsciiDigit)
    | r => ([], r)
  if whole.isEmpty && fraction.isEmpty then none
  else (readExponent? tail).map fun x =>
    let digits := (whole ++ fraction).dropWhile (· == '0')
    Binary64.ofDecimal negative (natOfDigits digits) digits.length (x - fraction.length)

def isWord (word : String) (cs : List Char) : Bool := cs.map Char.toLower == word.toList

def readFloat? (s : String) : Option Binary64 :=
  let cs := (trimBy isMargin s.toList).map plainDigit
  if !joinsDigits false cs then none
  else
    let (negative, body) := takeSign (cs.filter (· != '_'))
    if isWord "nan" body then some .nan
    else if isWord "inf" body || isWord "infinity" body then some (.infinite negative)
    else readUnsigned? negative body

end LiveLint.Number
