import LiveLint.Lint.Response
import LiveLint.Text.ShellWords

/-! A linter that is a command: it gets the document as input and writes its answer. -/

namespace LiveLint

/-- The words of a command line, or of a list of words, in which empty ones are dropped. -/
def splitCommand : Value → Except Fault (List String)
  | .text s => Text.shellWords s
  | .list items => .ok ((items.map (·.display)).filter (!·.isEmpty))
  | .dict entries => .ok ((Entries.keys entries).filter (!·.isEmpty))
  | v => .error (.notIterable v.typeName)

/-- The seconds a linter gets, at least one half. -/
def readTimeout (v : Value) : Except Fault Binary64 :=
  v.toBinary.map fun x => (Binary64.ofRatio false 1 2).max x

/-- How a process ended. -/
inductive ProcessEnd where
  | finished (output errors : Option String) (code : Int)
  | notFound
  | timedOut
  | failed (fault : Fault)

structure Command where
  argv : List String
  timeout : Binary64

namespace Command

def ofValues (command timeout : Value) : Except Fault Command := do
  let argv ← splitCommand command
  let timeout ← readTimeout timeout
  .ok { argv, timeout }

/-- What a process without output has to say: its last message, else how it ended. -/
def silenceDetail (errors : Option String) (code : Int) : String :=
  match (Text.splitLines (Text.trim (errors.getD ""))).getLast? with
  | some line => line
  | none => "exit status " ++ toString code

/-- What the end of the process means. -/
def readEnd (c : Command) (name : String) : ProcessEnd → Except Fault Outcome
  | .finished output errors code =>
    if (Text.trim (output.getD "")).isEmpty then
      .ok (Response.failed ("Lint command produced no output (" ++ silenceDetail errors code ++ ")."))
    else Response.decodeText (output.getD "")
  | .notFound => .ok (Response.failed ("Lint command not found: " ++ name))
  | .timedOut =>
    .ok (Response.failed ("Lint command timed out after " ++ Decimal.generalText c.timeout ++ "s."))
  | .failed f => .error f

end Command
end LiveLint
