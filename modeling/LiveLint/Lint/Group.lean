import LiveLint.Lint.Item

/-! Findings grouped by the line they start on, and counted by severity. Lines
ascend; within a line the most severe come first, and equally severe ones keep the
order in which the linter gave them. -/

namespace LiveLint

/-- The findings of one line. -/
structure LineGroup where
  line : Int
  highest : Severity
  findings : List Finding
  deriving DecidableEq

/-- Most severe first; equally severe ones keep their order. -/
def sortForDisplay (xs : List Finding) : List Finding :=
  Severity.all.flatMap fun s => xs.filter (·.severity == s)

namespace LineGroup

/-- A line with one finding. -/
def single (a : Finding) : LineGroup := ⟨a.line, a.severity, [a]⟩

/-- One more finding on the same line. -/
def extend (a : Finding) (g : LineGroup) : LineGroup :=
  { g with
    findings := g.findings ++ [a]
    highest := if g.highest.rank < a.severity.rank then a.severity else g.highest }

/-- Add a finding to the group of its line; groups ascend by line. -/
def insert (a : Finding) : List LineGroup → List LineGroup
  | [] => [single a]
  | g :: rest =>
    if g.line = a.line then g.extend a :: rest
    else if a.line < g.line then single a :: g :: rest
    else g :: insert a rest

end LineGroup

def group (xs : List Finding) : List LineGroup :=
  (sortForDisplay xs).foldl (fun groups a => LineGroup.insert a groups) []

/-- The findings of groups, line by line. -/
def allFindings (groups : List LineGroup) : List Finding := groups.flatMap (·.findings)

/-- Group what came from outside. -/
def groupItems (items : List Item) : Except Fault (List LineGroup) :=
  (Item.toFindings items).map group

/-- A group that came from outside. -/
structure ItemGroup where
  line : Int
  highest : Severity
  items : List Item

namespace ItemGroup

/-- The findings of a group from outside. -/
def toGroup (g : ItemGroup) : LineGroup := ⟨g.line, g.highest, g.items.filterMap (·.finding?)⟩

/-- The groups before the first item that lacks a field. If there is such an item, the
findings before it in its own group follow, with the fault. -/
def takeWhole (field : String) : List ItemGroup → List LineGroup × Option (List Finding × Fault)
  | [] => ([], none)
  | g :: rest => match Item.takeFindings field g.items with
    | (xs, some f) => ([], some (xs, f))
    | (xs, none) =>
      let (groups, cut) := takeWhole field rest
      (⟨g.line, g.highest, xs⟩ :: groups, cut)

end ItemGroup

/-- How many findings there are of each severity; severities without any are left out,
and the others stand in the order of their first finding. -/
abbrev Counts := List (Severity × Nat)

namespace Counts

def add (s : Severity) : Counts → Counts
  | [] => [(s, 1)]
  | (t, n) :: rest => if t = s then (t, n + 1) :: rest else (t, n) :: add s rest

def get (s : Severity) (c : Counts) : Nat := ((c.find? (·.1 == s)).map (·.2)).getD 0

end Counts

def countSeverities (groups : List LineGroup) : Counts :=
  (allFindings groups).foldl (fun c a => c.add a.severity) []

/-- One severity with its number; the plural of `info` is `info`. -/
def summaryPart (s : Severity) (n : Int) : String :=
  toString n ++ " " ++ (if n = 1 || s = .info then s.name else s.name ++ "s")

/-- The summary of the numbers of problems; severities without any are not named. -/
def formatSummary (counts : Severity → Int) : String :=
  match (Severity.all.filter fun s => 0 < counts s).map fun s => summaryPart s (counts s) with
  | [] => "No problems"
  | parts => Value.joinTexts ", " parts

def Counts.summary (c : Counts) : String := formatSummary fun s => c.get s

/-- The summary of numbers that are given as values. -/
def summaryOfValues (counts : Severity → Value) : Except Fault String := do
  let errors ← (counts .error).toInt
  let warnings ← (counts .warning).toInt
  let infos ← (counts .info).toInt
  .ok (formatSummary fun
    | .error => errors
    | .warning => warnings
    | .info => infos)

end LiveLint
