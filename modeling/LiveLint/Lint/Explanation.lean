import LiveLint.Lint.Item
import LiveLint.Lint.Example
import LiveLint.Text.Markup

/-! The markup that explains findings in tooltips. All text of findings and
examples is escaped, so it adds no markup of its own. -/

namespace LiveLint

/-- Where examples of a kind come from. A look-up may fail or know nothing. -/
abbrev ExampleLookup := String → Except Fault (Option (List Example))

def ExampleTable.toLookup (t : ExampleTable) : ExampleLookup :=
  fun kind => .ok (some (t.lookup (.text kind)))

/-- The examples of a kind: none without a look-up, without a kind, or if it fails. -/
def examplesFor (lookup : Option ExampleLookup) (kind : String) : List Example :=
  match lookup with
  | none => []
  | some find =>
    if kind.isEmpty then []
    else match find kind with
      | .ok (some examples) => examples
      | _ => []

open Text in
def Example.markup (e : Example) : String :=
  "<div class='example'>" ++
    "<div class='example-bad-tag'><b>bad:</b></div>" ++
    "<pre class='example-bad'>" ++ escapeMarkup e.bad ++ "</pre>" ++
    "<div class='example-bad-expl'>" ++ escapeMarkup e.badExplanation ++ "</div>" ++
    "<div class='example-good-tag'><b>good:</b></div>" ++
    "<pre class='example-good'>" ++ escapeMarkup e.good ++ "</pre>" ++
    "<div class='example-good-expl'>" ++ escapeMarkup e.goodExplanation ++ "</div>" ++
    "</div>"

/-- The block of examples; nothing where there are none. -/
def examplesMarkup : List Example → String
  | [] => ""
  | examples =>
    "<hr class='example-sep'>" ++
      "<div class='example-container'><div class='example-header'>Examples:</div>" ++
      Value.joinTexts "" (examples.map (·.markup)) ++ "</div>"

namespace Finding
open Text

def suggestionMarkup (a : Finding) : String :=
  if a.suggestion.isEmpty then ""
  else "<div class='solution'>&#8618; " ++ escapeMarkup a.suggestion ++ "</div>"

def detailsMarkup (a : Finding) : String :=
  if a.details.isEmpty then ""
  else "<div class='explanation_long'>" ++ escapeMarkup a.details ++ "</div>"

/-- The explanation of one finding. -/
def markup (lookup : Option ExampleLookup) (a : Finding) : String :=
  "<div class='explanation explanation-" ++ a.severity.name ++ "'>" ++
    "<b>" ++ escapeMarkup a.message ++ "</b></div>" ++
    a.suggestionMarkup ++ a.detailsMarkup ++ examplesMarkup (examplesFor lookup a.kind)

end Finding

/-- The explanations of what came from outside, one by one. -/
def explainItems (lookup : Option ExampleLookup) (items : List Item) :
    Except Fault (List String) :=
  (Item.toFindings items).map fun xs => xs.map (·.markup lookup)

/-- The explanations of all findings of a line, with rules between them. -/
def findingsMarkup (lookup : Option ExampleLookup) (xs : List Finding) : String :=
  Value.joinTexts "<hr>" (xs.map (·.markup lookup))

end LiveLint
