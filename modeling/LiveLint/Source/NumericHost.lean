import LiveLint.Text.DecimalDigit
import LiveLint.Text.Split

/-! Hosts that are written as numbers. An IPv4 address is four octets between dots. An IPv6
address is eight groups of hexadecimal digits between colons: `::` stands for groups that
are left out, the last two may be written as an IPv4 address, and a zone may follow. -/

namespace LiveLint.NumericHost

open Text

/-- A number up to 255 without leading zeros. -/
def isOctet (cs : List Char) : Bool :=
  !cs.isEmpty && cs.length ≤ 3 && cs.all isAsciiDigit && (cs == ['0'] || cs.head? != some '0') &&
    natOfDigits cs ≤ 255

def isIPv4 (cs : List Char) : Bool :=
  let octets := splitFrom '.' [] cs
  octets.length == 4 && octets.all isOctet

def isGroup (cs : List Char) : Bool := !cs.isEmpty && cs.length ≤ 4 && cs.all isHexDigit

/-- How many groups there are, if all are well formed. An IPv4 address counts as two; it may
only stand last, and only where the address ends. -/
def countGroups? (atEnd : Bool) : List (List Char) → Option Nat
  | [] => some 0
  | [last] => if isGroup last then some 1 else if atEnd && isIPv4 last then some 2 else none
  | g :: rest => if isGroup g then (countGroups? atEnd rest).map (· + 1) else none

/-- What stands before and after the first `::`. -/
def splitGap? : List Char → Option (List Char × List Char)
  | [] => none
  | ':' :: ':' :: r => some ([], r)
  | c :: r => (splitGap? r).map fun (before, after) => (c :: before, after)

def groupsOf (cs : List Char) : List (List Char) :=
  if cs.isEmpty then [] else splitFrom ':' [] cs

/-- An IPv6 address without its zone. -/
def isIPv6Number (cs : List Char) : Bool :=
  match splitGap? cs with
  | none => countGroups? true (groupsOf cs) == some 8
  | some (before, after) =>
    match countGroups? false (groupsOf before), countGroups? true (groupsOf after) with
    | some m, some n => m + n ≤ 7
    | _, _ => false

/-- A zone is not empty and has no second percent sign. -/
def isZone : List Char → Bool
  | [] => true
  | _ :: name => !name.isEmpty && !name.contains '%'

def isIPv6 (cs : List Char) : Bool :=
  isIPv6Number (cs.takeWhile (· != '%')) && isZone (cs.dropWhile (· != '%'))

end LiveLint.NumericHost
