/-! Texts cut at a separator. There is always at least one part, and the parts with the
separator between them are the text again. -/

namespace LiveLint.Text

/-- The parts of a text, the first of which begins with `part` in reverse. -/
def splitFrom (separator : Char) (part : List Char) : List Char → List (List Char)
  | [] => [part.reverse]
  | c :: r =>
    if c = separator then part.reverse :: splitFrom separator [] r
    else splitFrom separator (c :: part) r

def splitAt (separator : Char) (s : String) : List String :=
  (splitFrom separator [] s.toList).map String.ofList

end LiveLint.Text
