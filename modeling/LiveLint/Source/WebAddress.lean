import LiveLint.Fault
import LiveLint.Source.NumericHost
import LiveLint.Text.Blank

/-! Addresses of web services. An address may be given in angle brackets and after a label.
It needs a scheme, and its host must be beyond doubt: brackets stand around a number that
is all of the host, and no character may pass for one that ends the host. -/

namespace LiveLint.WebAddress

/-- An address without the brackets and the label that it may be given in. -/
def unwrap (s : String) : String :=
  let s := Text.trim s
  let s := match s.toList with
    | '<' :: r => if r.getLast? == some '>' then Text.trim (String.ofList r.dropLast) else s
    | _ => s
  match s.toList with
  | 'U' :: 'R' :: 'L' :: ':' :: r => Text.trim (String.ofList r)
  | _ => s

/-- The part before the last number sign, and the one after it if there is one. -/
def splitFragment (cs : List Char) : List Char × Option (List Char) :=
  match cs.reverse.dropWhile (· != '#') with
  | [] => (cs, none)
  | _ :: before => (before.reverse, some (cs.reverse.takeWhile (· != '#')).reverse)

/-- Whether a name and a colon come first. -/
def hasScheme (cs : List Char) : Bool :=
  let scheme := cs.takeWhile fun c => c != '/' && c != ':'
  !scheme.isEmpty && (cs.drop scheme.length).head? == some ':'

def isSchemeChar (c : Char) : Bool := c.isAlphanum || c == '+' || c == '-' || c == '.'

/-- What is left after a scheme that begins with a letter. -/
def afterScheme (cs : List Char) : List Char :=
  let scheme := cs.takeWhile (· != ':')
  match cs.dropWhile (· != ':') with
  | _ :: rest =>
    if (scheme.head?.map (·.isAlpha)).getD false && scheme.all isSchemeChar then rest else cs
  | [] => cs

/-- The part that names the host: what follows two slashes, up to the next delimiter.
Control characters before the address and tabs and line ends in it do not count. -/
def authority (cs : List Char) : List Char :=
  let cs := (cs.dropWhile (·.toNat ≤ 0x20)).filter fun c => c != '\t' && c != '\r' && c != '\n'
  match afterScheme cs with
  | '/' :: '/' :: r => r.takeWhile fun c => c != '/' && c != '?' && c != '#'
  | _ => []

/-- An address of a version to come: its number in hexadecimal digits, a dot and more. -/
def isFutureHost (cs : List Char) : Bool :=
  let version := cs.takeWhile Text.isHexDigit
  match cs.drop version.length with
  | '.' :: rest => !version.isEmpty && !rest.isEmpty
  | _ => false

/-- Only addresses that need brackets may stand in them. -/
def checkBracketed : List Char → Except Fault Unit
  | 'v' :: r => if isFutureHost r then .ok () else .error .badFutureHost
  | host =>
    if NumericHost.isIPv4 host then .error .bracketedIPv4
    else if NumericHost.isIPv6 host then .ok ()
    else .error (.badHost (String.ofList host))

/-- The host and the port: what follows the last at sign. -/
def hostAndPort (authority : List Char) : List Char :=
  (authority.reverse.takeWhile (· != '@')).reverse

/-- The host without its port, which a colon begins. Brackets begin it or are not there, and
nothing but the port stands after them. -/
def hostName (cs : List Char) : Except Fault (List Char) :=
  match cs.takeWhile (· != '['), cs.dropWhile (· != '[') with
  | name, [] => .ok (name.takeWhile (· != ':'))
  | [], _ :: bracketed =>
    match bracketed.dropWhile (· != ']') with
    | [] | [_] | _ :: ':' :: _ => .ok (bracketed.takeWhile (· != ']'))
    | _ => .error .misplacedBracket
  | _, _ => .error .misplacedBracket

/-- With brackets anywhere in it, an authority has both, and its host may stand in them. -/
def checkBrackets (authority : List Char) : Except Fault Unit :=
  match authority.contains '[', authority.contains ']' with
  | false, false => .ok ()
  | true, true => do checkBracketed (← hostName (hostAndPort authority))
  | _, _ => .error .misplacedBracket

/-- The code points whose compatible form has a slash, question mark, number sign, at sign or
colon in it. -/
def disguisedDelimiters : List Nat := [
  0x2047, 0x2048, 0x2049, 0x2100, 0x2101, 0x2105, 0x2106, 0x2a74, 0xfe13, 0xfe16, 0xfe55, 0xfe56,
  0xfe5f, 0xfe6b, 0xff03, 0xff0f, 0xff1a, 0xff1f, 0xff20]

def checkDelimiters (authority : List Char) : Except Fault Unit :=
  if authority.any fun c => disguisedDelimiters.contains c.toNat then
    .error (.disguisedDelimiter (String.ofList authority))
  else .ok ()

/-- The address that is asked; an empty fragment is dropped from it. -/
def read (s : String) : Except Fault String := do
  let (base, fragment) := splitFragment (unwrap s).toList
  let full := match fragment with
    | some f => if f.isEmpty then base else base ++ '#' :: f
    | none => base
  if hasScheme base then do
    checkBrackets (authority full)
    checkDelimiters (authority full)
    .ok (String.ofList full)
  else .error (.unknownUrl (String.ofList full))

end LiveLint.WebAddress
