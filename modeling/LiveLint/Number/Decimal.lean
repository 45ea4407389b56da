import LiveLint.Text.DecimalDigit
import LiveLint.Number.Binary64

/-! Decimal texts of binary numbers. Which digits are written and how they are laid
out are separate questions: `shortest` picks the fewest digits that read back as
the same number, `rounded` a given count of digits, and a `Layout` says where the
point and the exponent go. -/

namespace LiveLint.Decimal
open LiveLint.Text

/-- The value `0.d₁d₂… · 10 ^ point` of a digit string. -/
structure Digits where
  digits : List Char
  point : Int
  deriving DecidableEq

def digitCount (n : Nat) : Nat := (digitsOfNat n).length

/-- The power of ten of the first digit of `num / den`, for values from `10 ^ -400` on. -/
def leadingPower (num den : Nat) : Int :=
  (digitCount (num * Nat.pow 10 400 / den) : Int) - 401

/-- `num / den` in units of `10 ^ k`, as a fraction. -/
def inPower (num den : Nat) (k : Int) : Nat × Nat :=
  if 0 ≤ k then (num, den * Nat.pow 10 k.toNat) else (num * Nat.pow 10 (-k).toNat, den)

def dropZeros (cs : List Char) : List Char := (cs.reverse.dropWhile (· == '0')).reverse

/-- The digits of `n` units of `10 ^ k`. -/
def ofNatPower (n : Nat) (k : Int) : Digits :=
  let ds := digitsOfNat n
  ⟨dropZeros ds, (ds.length : Int) + k⟩

/-- A candidate on the grid of `10 ^ k`: the neighbours of the value that round back
to it, the nearer first; of two equally near ones the even. All lengths are quarters
of units: the value is `v`, the numbers that round to it reach from `v - below` to
`v + above`, with the ends if `closed`. -/
def candidate? (v below above : Nat) (closed : Bool) (k : Int) : Option Nat :=
  let (num, den) := inPower v (4 * Binary64.scale) k
  let a := num / den
  let readsBack (c : Nat) : Bool :=
    let (lowNum, lowDen) := inPower (v - below) (4 * Binary64.scale) k
    let (highNum, highDen) := inPower (v + above) (4 * Binary64.scale) k
    if closed then lowNum ≤ c * lowDen && c * highDen ≤ highNum
    else lowNum < c * lowDen && c * highDen < highNum
  let rest := num % den
  let nearer := if 2 * rest < den || (2 * rest == den && a % 2 == 0) then a else a + 1
  let other := if nearer == a then a + 1 else a
  if readsBack nearer then some nearer else if readsBack other then some other else none

/-- The grids that may hold the shortest digits of `v` quarters of units, from the coarsest one. -/
def grids (v : Nat) : List Int :=
  let power := leadingPower v (4 * Binary64.scale)
  (List.range 17).map fun (n : Nat) => power - (n : Int)

/-- The digits of a candidate. -/
def ofCandidate? : Option (Nat × Int) → Digits
  | some (n, k) => ofNatPower n k
  | none => ⟨[], 0⟩

/-- The fewest digits that read back as `m · 2 ^ e` units. -/
def shortest (m e : Nat) : Digits :=
  let v := 4 * (m * Nat.pow 2 e)
  let above := 2 * Nat.pow 2 e
  let below := if m == Nat.pow 2 52 && 0 < e then Nat.pow 2 e else above
  ofCandidate? ((grids v).findSome? fun k =>
    (candidate? v below above (m % 2 == 0) k).map (·, k))

/-- `count` digits of `m · 2 ^ e` units, rounded. -/
def rounded (count : Nat) (m e : Nat) : Digits :=
  let power := leadingPower (m * Nat.pow 2 e) Binary64.scale
  let k := power - (count - 1)
  let (num, den) := inPower (m * Nat.pow 2 e) Binary64.scale k
  ofNatPower (Binary64.roundDiv num den) k

/-- Where a point is set without an exponent, and whether a whole number keeps one. -/
structure Layout where
  /-- The least exponent that is written positionally. -/
  least : Int
  /-- The first exponent that is no longer written positionally. -/
  limit : Int
  wholePoint : Bool

/-- Numbers as values: a point always, positional from `1e-4` below `1e16`. -/
def Layout.value : Layout := ⟨-4, 16, true⟩

/-- Numbers of six digits in messages: a point only where digits follow. -/
def Layout.general : Layout := ⟨-4, 6, false⟩

def exponentText (x : Int) : List Char :=
  let ds := digitsOfNat x.natAbs
  (if x < 0 then '-' else '+') :: (if ds.length < 2 then '0' :: ds else ds)

def Layout.positional (l : Layout) (d : Digits) : List Char :=
  if d.point ≤ 0 then
    '0' :: '.' :: List.replicate (-d.point).toNat '0' ++ d.digits
  else
    let n := d.point.toNat
    let whole := d.digits.take n ++ List.replicate (n - d.digits.length) '0'
    match d.digits.drop n with
    | [] => if l.wholePoint then whole ++ ['.', '0'] else whole
    | fraction => whole ++ '.' :: fraction

def scientific (d : Digits) : List Char :=
  let x := exponentText (d.point - 1)
  match d.digits with
  | [] => '0' :: 'e' :: x
  | [c] => c :: 'e' :: x
  | c :: rest => c :: '.' :: rest ++ 'e' :: x

def Layout.write (l : Layout) (d : Digits) : List Char :=
  if l.least ≤ d.point - 1 && d.point - 1 < l.limit then l.positional d else scientific d

def signed (negative : Bool) (cs : List Char) : String :=
  String.ofList (if negative then '-' :: cs else cs)

def zeroDigits : Digits := ⟨['0'], 1⟩

/-- The text of a number by a choice of digits and a layout. -/
def textBy (digits : Nat → Nat → Digits) (l : Layout) : Binary64 → String
  | .nan => "nan"
  | .infinite s => signed s "inf".toList
  | .finite s m e => signed s (l.write (if m == 0 then zeroDigits else digits m e))

/-- The shortest text that reads back as the same number. -/
def text : Binary64 → String := textBy shortest .value

/-- At most six digits, with an exponent only where it is needed. -/
def generalText : Binary64 → String := textBy (rounded 6) .general

/-- Six decimal places. -/
def placesText : Binary64 → String
  | .nan => "nan"
  | .infinite s => signed s "inf".toList
  | .finite s m e =>
    let n := Binary64.roundDiv (m * Nat.pow 2 e * Nat.pow 10 6) Binary64.scale
    let fraction := digitsOfNat (n % Nat.pow 10 6)
    signed s (digitsOfNat (n / Nat.pow 10 6) ++ '.' ::
      List.replicate (6 - fraction.length) '0' ++ fraction)

end LiveLint.Decimal
