import LiveLint.Value
import LiveLint.Text.LowerCase

/-! Severities of lint findings, from the most to the least severe. -/

namespace LiveLint

inductive Severity where
  | error
  | warning
  | info
  deriving DecidableEq, Inhabited

namespace Severity

/-- The more severe, the higher. -/
def rank : Severity → Nat
  | error => 3
  | warning => 2
  | info => 1

def name : Severity → String
  | error => "error"
  | warning => "warning"
  | info => "info"

/-- All severities in the order of display. -/
def all : List Severity := [error, warning, info]

def ofName? (s : String) : Option Severity := all.find? (·.name == s)

/-- The severity that a value names, up to case and blanks around. -/
def parse (v : Value) (fallback : Severity) : Severity :=
  (ofName? (Text.lower (Text.trim v.displayOrEmpty))).getD fallback

/-- The highest severity of a list. -/
def highest? : List Severity → Option Severity
  | [] => none
  | s :: rest => some (rest.foldl (fun best t => if best.rank < t.rank then t else best) s)

end Severity
end LiveLint
