/-! Text inside markup: the five characters that markup gives a meaning are written as
references, so that an escaped text is text and nothing else. -/

namespace LiveLint.Text

def escapeMarkupChar (c : Char) : List Char :=
  if c = '&' then "&amp;".toList
  else if c = '<' then "&lt;".toList
  else if c = '>' then "&gt;".toList
  else if c = '"' then "&quot;".toList
  else if c = '\'' then "&#x27;".toList
  else [c]

def escapeMarkup (s : String) : String := String.ofList (s.toList.flatMap escapeMarkupChar)

end LiveLint.Text
