import LiveLint.Settings.LintConfig
import LiveLint.Source.Command
import LiveLint.Source.Service
import LiveLint.Text.LineBreak

/-! Sources of lint results. A source is asked with a document and always comes to an
outcome: whatever goes wrong on the way, and being asked after it was closed, are
failures like any other. -/

namespace LiveLint

inductive Linter where
  | command (c : Command)
  | service (s : Service)
  /-- A linter inside the program. -/
  | builtIn (lint : String → Except Fault Outcome)

/-- How the world outside answers a call. -/
structure World where
  process : ProcessEnd
  reply : Reply

/-- The calls that linters make to the world outside. -/
inductive Call where
  | run (argv : List String) (input : String) (timeout : Binary64)
  | post (url form : String) (timeout : Binary64)

/-- The header fields of every request to a service. -/
def requestHeaders : List (String × String) :=
  [("Accept", "application/json"), ("Content-type", "application/x-www-form-urlencoded"),
    ("User-agent", "lintpad/1.0")]

namespace Linter

/-- The linter that a configuration asks for. -/
def ofConfig (c : LintConfig) : Except Fault Linter :=
  match c.backend with
  | .command => (Command.ofValues (.text c.command) (.float c.requestTimeout)).map .command
  | .http => (Service.ofValues (.text c.backendUrl) (.float c.requestTimeout)).map .service

/-- Lint a document: the calls made and what they came to. -/
def run (l : Linter) (world : World) (document : String) : List Call × Except Fault Outcome :=
  match l with
  | .command c =>
    match c.argv with
    | [] => ([], .ok (Response.failed "No lint command configured."))
    | name :: _ => ([.run c.argv document c.timeout], c.readEnd name world.process)
  | .service s =>
    if s.url.isEmpty then ([], .ok (Response.failed "No lint service URL configured."))
    else match WebAddress.read s.url with
      | .error f => ([], .error f)
      | .ok url => ([.post url (Service.form document) s.timeout], s.readReply world.reply)
  | .builtIn lint => ([], lint document)

end Linter

/-- A fault on the way to an outcome is a failure of the transport. -/
def outcomeOf : Except Fault Outcome → Outcome
  | .ok o => o
  | .error f => Response.failed f.summary

structure Source where
  linter : Linter
  closed : Bool := false

namespace Source

def close (s : Source) : Source := { s with closed := true }

/-- Ask for the outcome of a document; line breaks are unified before anything else. -/
def request (s : Source) (world : World) (document : Value) : List Call × Outcome :=
  if s.closed then ([], Response.failed "cannot schedule new futures after shutdown")
  else
    let (calls, result) := s.linter.run world (Text.unifyBreaks document.displayOrEmpty)
    (calls, outcomeOf result)

end Source
end LiveLint
