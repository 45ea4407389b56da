import LiveLint.Lint.Finding

/-! Members of lists that come from outside. They should be findings, and where one is not,
it is either left out or a fault: it lacks the first field that is asked of it. -/

namespace LiveLint

inductive Item where
  | finding (a : Finding)
  | other (v : Value)

namespace Item

def finding? : Item → Option Finding
  | finding a => some a
  | other _ => none

/-- The finding that an item has to be, since this field of it is needed. -/
def expect (field : String) : Item → Except Fault Finding
  | finding a => .ok a
  | other v => .error (.noField v.typeName field)

/-- All items as findings, each asked for its severity in turn. -/
def toFindings : List Item → Except Fault (List Finding)
  | [] => .ok []
  | item :: rest => do
    let a ← item.expect "severity"
    .ok (a :: (← toFindings rest))

/-- The findings before the first item whose field is missing, and the fault of that one. -/
def takeFindings (field : String) : List Item → List Finding × Option Fault
  | [] => ([], none)
  | item :: rest => match item.expect field with
    | .error f => ([], some f)
    | .ok a =>
      let (xs, fault) := takeFindings field rest
      (a :: xs, fault)

end Item
end LiveLint
