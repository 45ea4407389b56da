import LiveLint.Fault

/-! Command lines split into words the way a shell does, without expansion. Words are
separated by spaces, tabs and line ends; single quotes keep everything up to the next
one, double quotes keep everything but escapes, and a backslash keeps one character. -/

namespace LiveLint.Text

/-- What the next character is read as. -/
inductive ShellMode where
  | plain
  | quote (mark : Char)
  /-- After a backslash, inside double quotes or outside of quotes. -/
  | escape (inQuotes : Bool)
  deriving DecidableEq

def isWordSpace (c : Char) : Bool := c == ' ' || c == '\t' || c == '\r' || c == '\n'

/-- A character that belongs to the word, which may just have begun. -/
def extendWord (c : Char) (word : Option (List Char)) : Option (List Char) :=
  some (c :: word.getD [])

def closeWord (word : Option (List Char)) (rest : List (List Char)) : List (List Char) :=
  match word with
  | some w => w.reverse :: rest
  | none => rest

/-- The words from here on; `word` is the current one, reversed. -/
def shellWordsFrom : ShellMode → Option (List Char) → List Char → Except Fault (List (List Char))
  | .plain, word, [] => .ok (closeWord word [])
  | .quote _, _, [] => .error .openQuotation
  | .escape _, _, [] => .error .openEscape
  | .plain, word, c :: r =>
    if isWordSpace c then (shellWordsFrom .plain none r).map (closeWord word)
    else if c = '\\' then shellWordsFrom (.escape false) (some (word.getD [])) r
    else if c = '"' || c = '\'' then shellWordsFrom (.quote c) (some (word.getD [])) r
    else shellWordsFrom .plain (extendWord c word) r
  | .quote mark, word, c :: r =>
    if c = mark then shellWordsFrom .plain word r
    else if c = '\\' && mark = '"' then shellWordsFrom (.escape true) word r
    else shellWordsFrom (.quote mark) (extendWord c word) r
  | .escape true, word, c :: r =>
    let word := if c = '\\' || c = '"' then word else extendWord '\\' word
    shellWordsFrom (.quote '"') (extendWord c word) r
  | .escape false, word, c :: r => shellWordsFrom .plain (extendWord c word) r

def shellWords (s : String) : Except Fault (List String) :=
  (shellWordsFrom .plain none s.toList).map (·.map String.ofList)

end LiveLint.Text
