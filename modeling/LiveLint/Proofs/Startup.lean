import LiveLint.Startup

/-! # The grammar of the command line

A command line is a list of pairs of `--settings` and a value and of other arguments, which may
end in a `--settings` without a value. What is read off it is the value of the last pair and the
first of the other arguments that is no option. -/

namespace LiveLint.Startup

/-! ## The grammar -/

/-- A pair with any value, be it an option itself, or an argument that stands alone. -/
inductive Item where
  | pair (value : String)
  | single (arg : String) (alone : arg ≠ "--settings")

namespace Item

def args : Item → List String
  | pair value => ["--settings", value]
  | single arg _ => [arg]

def value? : Item → Option String
  | pair value => some value
  | single _ _ => none

def single? : Item → Option String
  | pair _ => none
  | single arg _ => some arg

end Item

/-- The values of the pairs. -/
def values (items : List Item) : List String := items.filterMap Item.value?

/-- The arguments that stand alone. -/
def singles (items : List Item) : List String := items.filterMap Item.single?

/-- The command line of some items, with or without a `--settings` at its end. -/
def commandLine (items : List Item) (openEnd : Bool) : List String :=
  items.flatMap Item.args ++ if openEnd then ["--settings"] else []

def isFileName (arg : String) : Bool := arg.toList.head? != some '-'

/-- Every list of arguments is a command line. -/
theorem exists_commandLine (args : List String) :
    ∃ items openEnd, args = commandLine items openEnd := by
  induction ({} : Arguments), args using readFrom.induct with
  | case1 a => exact ⟨[], false, rfl⟩
  | case2 a arg =>
    by_cases settings : arg = "--settings"
    · exact ⟨[], true, settings ▸ rfl⟩
    · exact ⟨[.single arg settings], false, rfl⟩
  | case3 a value rest ih =>
    obtain ⟨items, openEnd, rfl⟩ := ih
    exact ⟨.pair value :: items, openEnd, rfl⟩
  | case4 a arg value rest alone ih =>
    obtain ⟨items, openEnd, same⟩ := ih
    exact ⟨.single arg alone :: items, openEnd, congrArg (arg :: ·) same⟩

/-! ## Reading -/

variable (a : Arguments)

theorem file_eq (arg : String) :
    readFrom.file a arg =
      { a with file := a.file.or (if isFileName arg then some arg else none) } := by
  obtain ⟨file, settings⟩ := a
  cases file with
  | some file => rfl
  | none =>
    show (if isFileName arg then _ else _) = _
    split <;> rfl

theorem readFrom_pair (value : String) (rest : List String) :
    readFrom a ("--settings" :: value :: rest) = readFrom { a with settings := some value } rest :=
  if_pos rfl

theorem readFrom_single {arg : String} (alone : arg ≠ "--settings") (rest : List String) :
    readFrom a (arg :: rest) = readFrom (readFrom.file a arg) rest := by
  cases rest with
  | nil => rfl
  | cons value rest => exact if_neg alone

theorem readFrom_commandLine (items : List Item) (openEnd : Bool) :
    readFrom a (commandLine items openEnd) = {
      file := a.file.or ((singles items).find? isFileName)
      settings := (values items).getLast?.or a.settings } := by
  induction items generalizing a with
  | nil =>
    have atEnd : readFrom a (commandLine [] openEnd) = a := by
      cases openEnd with
      | false => rfl
      | true =>
        show readFrom.file a "--settings" = a
        rw [file_eq, if_neg (by decide), Option.or_none]
    rw [atEnd]
    show a = ⟨a.file.or none, a.settings⟩
    rw [Option.or_none]
  | cons item rest ih =>
    cases item with
    | pair value =>
      show readFrom a ("--settings" :: value :: commandLine rest openEnd) =
        ⟨a.file.or ((singles rest).find? isFileName), (value :: values rest).getLast?.or a.settings⟩
      rw [readFrom_pair, ih, List.getLast?_cons]
      cases (values rest).getLast? <;> rfl
    | single arg alone =>
      show readFrom a (arg :: commandLine rest openEnd) =
        ⟨a.file.or ((arg :: singles rest).find? isFileName), (values rest).getLast?.or a.settings⟩
      rw [readFrom_single a alone, ih, file_eq, Option.or_assoc, List.find?_cons]
      cases isFileName arg <;> rfl

theorem read_items (items : List Item) (openEnd : Bool) :
    read (commandLine items openEnd) =
      { file := (singles items).find? isFileName, settings := (values items).getLast? } := by
  rw [read, readFrom_commandLine, Option.or_none]
  rfl

/-- **The value of the last pair and the first file name count.** Every list of arguments is a
command line, and which pairs there are and where they stand does not change what the file is. -/
theorem read_commandLine :
    (∀ args, ∃ items openEnd, args = commandLine items openEnd) ∧
    ∀ items openEnd,
      read (commandLine items openEnd) =
        { file := (singles items).find? isFileName, settings := (values items).getLast? } ∧
      ∀ others openEnd', singles others = singles items →
        (read (commandLine others openEnd')).file = (read (commandLine items openEnd)).file := by
  refine ⟨exists_commandLine, fun items openEnd => ⟨read_items items openEnd, ?_⟩⟩
  intro others openEnd' same
  rw [read_items, read_items, same]

/-- Values that look like options or like a file, and pairs moved between the other arguments. -/
theorem read_commandLine_odd_values :
    let x := Item.single "-x" (by decide)
    let file := Item.single "a.txt" (by decide)
    let more := Item.single "b.txt" (by decide)
    let items := [.pair "--settings", x, .pair "c.txt", file, .pair "-y", more]
    let moved := [x, file, more, .pair "d.txt"]
    commandLine items true = ["--settings", "--settings", "-x", "--settings", "c.txt", "a.txt",
        "--settings", "-y", "b.txt", "--settings"] ∧
      singles moved = singles items ∧
      read (commandLine items true) = { file := some "a.txt", settings := some "-y" } ∧
      (read (commandLine moved false)).file = some "a.txt" := by
  intro x file more items moved
  have same : singles moved = singles items := rfl
  obtain ⟨read_items, kept⟩ := read_commandLine.2 items true
  exact ⟨rfl, same, read_items, (kept moved false same).trans (congrArg _ read_items)⟩

end LiveLint.Startup
