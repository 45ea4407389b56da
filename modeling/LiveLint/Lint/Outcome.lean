import LiveLint.Lint.Finding

/-! What a lint request comes to: findings, or one of the errors a linter knows. An
error with a position is shown in the document, as a finding of its own. -/

namespace LiveLint

inductive LintError where
  /-- The document could not be read. -/
  | parse (position : Position) (expected : List String)
  /-- The document was read but could not be processed. -/
  | transformation (position : Position) (cause : String)
  /-- No answer of the linter. -/
  | transport (detail : String)
  /-- Something that is no lint error at all. -/
  | other (value : Value)
  deriving Inhabited

inductive Outcome where
  | success (findings : List Finding)
  | failure (error : LintError)
  deriving Inhabited

namespace LintError

def parseExplanation : String :=
  "A syntax error means the document could not be analysed at all. " ++
    "This is often caused by a missing closing bracket or tag. " ++
    "Check the surrounding text too, the actual mistake may be before or after the given position."

def transformationExplanation : String :=
  "The document was parsed but could not be processed further. " ++
    "This can happen with an unusual heading or list structure."

/-- The finding that stands for an error, if the error has a position. -/
def finding? : LintError → Except Fault (Option Finding)
  | parse p expected => .ok (some {
      range := .point p
      severity := .error
      message := "Syntax error!"
      details := parseExplanation
      suggestion := "Expected one of: " ++ Value.joinTexts ", " expected
      kind := "parseerror" })
  | transformation p cause => .ok (some {
      range := .point p
      severity := .error
      message := if cause.isEmpty then "Document could not be processed." else cause
      details := transformationExplanation
      suggestion := "This document does not follow the usual document structure."
      kind := "transformationerror" })
  | transport _ => .ok none
  | other v => .error (.unhandledError v.typeName)

end LintError
end LiveLint
