/-! Binary floating-point numbers with 53-bit mantissas. A finite number is kept
as a mantissa and a shift over the least positive number, so that comparison,
conversion and arithmetic are exact computations on naturals with one rounding at
the end. -/

namespace LiveLint

/-- `finite negative m e` is `± m · 2 ^ e` units, where a unit is `2 ^ -1074`. -/
inductive Binary64 where
  | nan
  | infinite (negative : Bool)
  | finite (negative : Bool) (m e : Nat)
  deriving DecidableEq, Inhabited

namespace Binary64

/-- The number of units in one. -/
def scale : Nat := Nat.pow 2 1074

/-- Numbers of this many units and more are infinite. -/
def unitLimit : Nat := Nat.pow 2 2098

def zero : Binary64 := finite false 0 0

/-- The nearest natural to `num / den`; a half goes to the even neighbour. -/
def roundDiv (num den : Nat) : Nat :=
  let q := num / den
  let r := num % den
  if 2 * r < den then q
  else if den < 2 * r then q + 1
  else if q % 2 == 0 then q else q + 1

/-- The number nearest to `± num / den` units; half-way cases take the even
mantissa, and what lies beyond the largest number is infinite. -/
def ofUnits (negative : Bool) (num den : Nat) : Binary64 :=
  let e := (num / den).log2 - 52
  let m := roundDiv num (den * Nat.pow 2 e)
  let (m, e) := if m == Nat.pow 2 53 then (Nat.pow 2 52, e + 1) else (m, e)
  if 2045 < e then infinite negative else finite negative m e

def ofRatio (negative : Bool) (num den : Nat) : Binary64 :=
  ofUnits negative (num * scale) den

/-- `± digits · 10 ^ exponent`, where `digits` has at most `count` digits. The two
guards only save work: beyond them the result is known without the power. -/
def ofDecimal (negative : Bool) (digits count : Nat) (exponent : Int) : Binary64 :=
  if digits == 0 || exponent + count < -400 then finite negative 0 0
  else if 400 < exponent then infinite negative
  else if 0 ≤ exponent then ofRatio negative (digits * Nat.pow 10 exponent.toNat) 1
  else ofRatio negative digits (Nat.pow 10 (-exponent).toNat)

/-- The number nearest to an integer. -/
def ofInt (n : Int) : Binary64 := ofRatio (n < 0) n.natAbs 1

/-- The number nearest to an integer, if there is a finite one. -/
def ofInt? (n : Int) : Option Binary64 :=
  match ofInt n with
  | finite s m e => some (finite s m e)
  | _ => none

/-- The signed number of units of a finite number. -/
def units : Bool → Nat → Nat → Int
  | negative, m, e =>
    let n : Nat := m * Nat.pow 2 e
    if negative then -(n : Int) else n

def isZero : Binary64 → Bool
  | finite _ m _ => m == 0
  | _ => false

def isNegative : Binary64 → Bool
  | nan => false
  | infinite s => s
  | finite s _ _ => s

/-- Ordered comparison; nothing compares with a number that is none. -/
def compare? : Binary64 → Binary64 → Option Ordering
  | nan, _ | _, nan => none
  | infinite s, infinite t => some (compare (if s then 0 else 1 : Nat) (if t then 0 else 1))
  | infinite s, finite _ _ _ => some (if s then .lt else .gt)
  | finite _ _ _, infinite t => some (if t then .gt else .lt)
  | finite s m e, finite t n f => some (compare (units s m e) (units t n f))

def lt (x y : Binary64) : Bool := compare? x y == some .lt

def le (x y : Binary64) : Bool := lt x y || compare? x y == some .eq

/-- Numeric equality: both zeros are equal, and what is no number equals nothing. -/
def same (x y : Binary64) : Bool := compare? x y == some .eq

def sameInt : Binary64 → Int → Bool
  | finite s m e, n => units s m e == n * scale
  | _, _ => false

/-- The integer part, toward zero. -/
def truncate? : Binary64 → Option Int
  | finite s m e =>
    let n : Nat := m * Nat.pow 2 e / scale
    some (if s then -(n : Int) else n)
  | _ => none

def neg : Binary64 → Binary64
  | nan => nan
  | infinite s => infinite (!s)
  | finite s m e => finite (!s) m e

/-- An exact sum of nothing but opposite numbers is the positive zero. -/
def add : Binary64 → Binary64 → Binary64
  | nan, _ | _, nan => nan
  | infinite s, infinite t => if s == t then infinite s else nan
  | infinite s, finite _ _ _ => infinite s
  | finite _ _ _, infinite t => infinite t
  | finite s m e, finite t n f =>
    let u := units s m e + units t n f
    if u == 0 then finite (s && t) 0 0 else ofUnits (u < 0) u.natAbs 1

def sub (x y : Binary64) : Binary64 := add x (neg y)

def mul : Binary64 → Binary64 → Binary64
  | nan, _ | _, nan => nan
  | infinite s, y => if y.isZero then nan else infinite (s != y.isNegative)
  | x, infinite t => if x.isZero then nan else infinite (x.isNegative != t)
  | finite s m e, finite t n f => ofUnits (s != t) (m * n * Nat.pow 2 (e + f)) scale

def half : Binary64 → Binary64
  | finite s m e => ofUnits s (m * Nat.pow 2 e) 2
  | x => x

/-- The first argument unless the second is smaller. -/
def min (x y : Binary64) : Binary64 := if lt y x then y else x

/-- The first argument unless the second is larger. -/
def max (x y : Binary64) : Binary64 := if lt x y then y else x

end Binary64
end LiveLint
