import LiveLint.Lint.Example

/-! The examples that come with the program. -/

namespace LiveLint

def bundledExamples : List Example := [
  { kind := "illegalhtml"
    name := "illegal_span"
    bad := "<big>big text</big>"
    badExplanation :=
      "<big> is not allowed here because it lacks portability."
    good := "'''fat text'''"
    goodExplanation := "Bold text highlights just as well." },
  { kind := "mathsyntaxerror"
    name := "math_syntax_error"
    bad := "<math>\\frac\x7b1\x7d\x7b2</math>"
    badExplanation :=
      "This formula is missing a closing brace."
    good := "<math>\\frac\x7b1\x7d\x7b2\x7d</math>"
    goodExplanation := "This formula is syntactically correct." },
  { kind := "mathlexingerror"
    name := "math_lexing_error"
    bad := "<math>\\[ bla</math>"
    badExplanation :=
      "Some inputs contain invalid tokens."
    good := "<math>bla</math>"
    goodExplanation := "This input does not contain unexpected characters." },
  { kind := "templatenotallowed"
    name := "unknown_template"
    bad := "\x7b\x7bunknown_template|arg1\x7d\x7d"
    badExplanation :=
      "The template `unknown template` is not allowed or specified for this project."
    good := "\x7b\x7bFormel|<math>1+1=2</math>\x7d\x7d"
    goodExplanation := "The \x7b\x7bFormel|...\x7d\x7d template exists and is used properly." },
  { kind := "maxheadingdepthviolation"
    name := "heading_too_deep"
    bad := "===== Deep heading ====="
    badExplanation :=
      "A heading should not be deeper than level 4."
    good := "=== Shallow heading ==="
    goodExplanation := "Keep the article structure shallow." },
  { kind := "inconsistentheadinghierarchy"
    name := "heading_skips_level"
    bad := "== Section ==\n==== Sub section ===="
    badExplanation :=
      "A sub heading should be exactly one level deeper than its parent heading."
    good := "== Section ==\n=== Sub section ==="
    goodExplanation := "Each sub heading is one level below its parent." },
  { kind := "listoneelement"
    name := "single_item_list"
    bad := "* only item"
    badExplanation :=
      "A list with a single element is not really a list."
    good := "only item"
    goodExplanation := "Write a single item as plain text." }]

def ExampleTable.bundled : ExampleTable := .ofList bundledExamples

end LiveLint
