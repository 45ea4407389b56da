import LiveLint.Text.LetterCase

/-! Lower-casing of whole texts. Three rules depend on more than one character's
simple form: the dotted capital I becomes two characters, and a capital sigma
becomes a final sigma exactly where it ends a word. -/

namespace LiveLint.Text

/-- The nearest character that is not looked through is a cased letter. -/
def meetsCased (cs : List Char) : Bool :=
  match cs.find? (!isCaseIgnorable ·) with
  | some c => isCased c
  | none => false

def lowerChar (c : Char) : List Char :=
  if c.toNat < 0x80 then [c.toLower]
  else if c = 'İ' then ['i', '\u0307']
  else [Char.ofNat (lowerPoint c.toNat)]

/-- The sigma after `before` (nearest first) and in front of `after`. -/
def lowerSigma (before after : List Char) : Char :=
  if meetsCased before && !meetsCased after then 'ς' else 'σ'

def lowerFrom (before : List Char) : List Char → List Char
  | [] => []
  | c :: rest =>
    (if c = 'Σ' then [lowerSigma before rest] else lowerChar c) ++ lowerFrom (c :: before) rest

def lower (s : String) : String := String.ofList (lowerFrom [] s.toList)

end LiveLint.Text
