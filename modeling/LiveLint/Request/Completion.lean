import LiveLint.Lint.Item
import LiveLint.Lint.Outcome

/-! How requests end, and what becomes of the newest one. A source may end a request with
an outcome, with something else, by failing or by giving up; every end is either
accepted as findings or reported as a status. -/

namespace LiveLint

inductive Completion where
  | success (items : List Item)
  /-- A success that lacks its list. -/
  | listless
  | failure (error : LintError)
  /-- A result that is no outcome. -/
  | stray (v : Value)
  | raised (fault : Fault)
  | cancelled

def Completion.ofOutcome : Outcome → Completion
  | .success xs => success (xs.map .finding)
  | .failure e => failure e

/-- What is made of a completed request. -/
inductive Delivery where
  | accepted (generation : Nat) (items : List Item)
  | status (text : String)
  /-- The result of a request that is not the newest. -/
  | stale

namespace Delivery

/-- The report on a request that brought nothing. -/
def kept (detail : String) : Delivery :=
  status ("Linting failed, keeping previous results: " ++
    (if detail.isEmpty then "unknown error" else detail))

def inapplicable (f : Fault) : Delivery :=
  status ("Lint result could not be applied: " ++ f.message)

def ofError (generation : Nat) (e : LintError) : Delivery :=
  match e.finding? with
  | .error f => inapplicable f
  | .ok (some a) => accepted generation [.finding a]
  | .ok none => match e with
    | .transport detail => kept detail
    | _ => kept ""

/-- The delivery of the newest request. -/
def ofCompletion (generation : Nat) : Completion → Delivery
  | .success items => accepted generation items
  | .listless => inapplicable (.notIterable "NoneType")
  | .failure e => ofError generation e
  | .stray v => kept ("Source returned " ++ v.typeName ++ ", expected a lint outcome.")
  | .raised f => kept f.summary
  | .cancelled => kept "Lint request was cancelled."

end Delivery
end LiveLint
