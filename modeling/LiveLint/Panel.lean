import LiveLint.Lint.Group
import LiveLint.Request.Completion
import LiveLint.Table
import LiveLint.Timing.Logged

/-! The list of problems beside the editor, one row for each finding. The rows follow
the groups of lines, and the row that is activated leads to its place in the text. What is
seen of the rows is a table, which is written anew when they change. -/

namespace LiveLint

structure Panel where
  rows : List Finding := []
  table : Table := { headers := ["Severity", "Line", "Col", "Message", "Suggestion", "Kind"] }
  deriving DecidableEq

namespace Panel

/-- What can be chosen from the menu of a row. -/
inductive Choice where
  | copyMessage
  | copyPosition
  | lintAgain
  deriving DecidableEq

def Choice.title : Choice → String
  | copyMessage => "Copy Message"
  | copyPosition => "Copy Line:Col"
  | lintAgain => "Lint Again"

def Choice.ofTitle? (s : String) : Option Choice :=
  [copyMessage, copyPosition, lintAgain].find? (·.title == s)

/-- A member of the menu; a separator stands between what concerns the row and the rest. -/
inductive MenuEntry where
  | choice (c : Choice) (enabled : Bool)
  | separator
  deriving DecidableEq

inductive Event where
  | count (n : Nat)
  | activated (place : Position)
  | menu (entries : List MenuEntry)
  | copied (text : String)
  | relint
  deriving DecidableEq

/-- The texts in the columns of a row. -/
def cells (a : Finding) : List String :=
  [a.severity.name, toString a.range.start.line, toString a.range.start.column, a.message,
    a.suggestion, a.kind]

/-- Show other rows. -/
def setRows (rows : List Finding) (p : Panel) : Panel :=
  { rows, table := (p.table.setRowCount rows.length).writeRows (rows.map cells) }

/-- Show the findings of a list, group by group; members that are none are left out. -/
def setItems (items : List Item) (p : Panel) : Panel :=
  p.setRows (allFindings (group (items.filterMap (·.finding?))))

def clear (p : Panel) : Panel := p.setRows []

/-- The event that follows a change of the rows. -/
def counted (p : Panel) : Event := .count p.rows.length

/-- Select a row. -/
def select (row : Int) (p : Panel) : Panel := { p with table := p.table.setCurrent row }

/-- The finding of the selected row. -/
def selected? (p : Panel) : Option Finding := p.table.current.bind (p.rows[·]?)

/-- The selected row is activated. -/
def activate (p : Panel) : Option Event := p.selected?.map fun a => .activated a.range.start

/-- The finding of the row at a height. -/
def rowAt? (y : Int) (p : Panel) : Option Finding := (p.table.rowAt? y).bind (p.rows[·]?)

/-- The menu over a row, or beside all rows. -/
def menuFor (a : Option Finding) : List MenuEntry :=
  [.choice .copyMessage a.isSome, .choice .copyPosition a.isSome, .separator,
    .choice .lintAgain true]

def positionText (p : Position) : String := toString p.line ++ ":" ++ toString p.column

/-- What comes of a choice from the menu. An empty message is not copied. -/
def choose (a : Option Finding) : Choice → Option Event
  | .copyMessage => (a.filter (!·.message.isEmpty)).map fun a => .copied a.message
  | .copyPosition => a.map fun a => .copied (positionText a.range.start)
  | .lintAgain => some .relint

/-- Open the menu at a height and choose from it, if anything. -/
def openMenu (y : Int) (choice : Option Choice) (p : Panel) : List Event :=
  let a := p.rowAt? y
  .menu (menuFor a) :: (choice.bind (choose a)).toList

inductive Step where
  | set (items : List Item)
  | clear
  | select (row : Int)
  | activate
  | menu (y : Int) (choice : Option Choice)

def step (p : Panel) : Step → Logged Event Panel
  | .set items => do
    let p := p.setItems items
    Logged.publish p.counted
    pure p
  | .clear => do
    Logged.publish p.clear.counted
    pure p.clear
  | .select row => pure (p.select row)
  | .activate => ⟨p, p.activate.toList⟩
  | .menu y choice => ⟨p, p.openMenu y choice⟩

def run (steps : List Step) (p : Panel) : Logged Event Panel := steps.foldlM step p

end Panel
end LiveLint
