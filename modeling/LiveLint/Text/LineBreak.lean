/-! Line breaks. Linters get documents whose lines end in LF; files are read with CR LF
and CR as line ends; the messages of processes are split at every character that ends
a line anywhere in Unicode. -/

namespace LiveLint.Text

/-- Every CR LF, LF CR and single CR becomes one LF, the leftmost pair first. -/
def unifyBreakChars : List Char → List Char
  | '\r' :: '\n' :: r => '\n' :: unifyBreakChars r
  | '\n' :: '\r' :: r => '\n' :: unifyBreakChars r
  | '\r' :: r => '\n' :: unifyBreakChars r
  | c :: r => c :: unifyBreakChars r
  | [] => []

def unifyBreaks (s : String) : String := String.ofList (unifyBreakChars s.toList)

/-- Every CR LF and single CR becomes one LF. -/
def unifyNewlineChars : List Char → List Char
  | '\r' :: '\n' :: r => '\n' :: unifyNewlineChars r
  | '\r' :: r => '\n' :: unifyNewlineChars r
  | c :: r => c :: unifyNewlineChars r
  | [] => []

def unifyNewlines (s : String) : String := String.ofList (unifyNewlineChars s.toList)

def isLineEnd (c : Char) : Bool :=
  let n := c.toNat
  (10 ≤ n && n ≤ 13) || (0x1c ≤ n && n ≤ 0x1e) || n == 0x85 || n == 0x2028 || n == 0x2029

/-- The lines of a text, without their ends; `line` holds the current one, reversed. A
text that ends in a line end has no further line. -/
def splitLinesFrom (line : List Char) : List Char → List (List Char)
  | '\r' :: '\n' :: r => line.reverse :: splitLinesFrom [] r
  | c :: r => if isLineEnd c then line.reverse :: splitLinesFrom [] r else splitLinesFrom (c :: line) r
  | [] => if line.isEmpty then [] else [line.reverse]

def splitLines (s : String) : List String := (splitLinesFrom [] s.toList).map String.ofList

/-- The lines of a document: the parts between its LFs, of which there is always one. -/
def documentLinesFrom (line : List Char) : List Char → List (List Char)
  | [] => [line.reverse]
  | c :: r =>
    if c = '\n' then line.reverse :: documentLinesFrom [] r else documentLinesFrom (c :: line) r

def documentLines (s : String) : List String := (documentLinesFrom [] s.toList).map String.ofList

end LiveLint.Text
