import LiveLint.Source
import LiveLint.Timing.Logged

/-! Sources with workers. A request is answered with a ticket at once, and settled when a worker
has linted the document. A source that is closed takes back the tickets that still wait;
what its workers have begun they finish. -/

namespace LiveLint

/-- What has become of a request. -/
inductive Ticket where
  | waiting (document : String)
  | running (document : String)
  | settled (result : Except Fault Outcome)
  /-- Taken back before a worker came to it. -/
  | dropped

def Ticket.takeBack : Ticket → Ticket
  | waiting _ => dropped
  | t => t

namespace Source

/-- Leave a document to the workers. They take none once the source is closed. -/
def submit (s : Source) (document : String) : Except Fault Ticket :=
  if s.closed then .error (.raised "RuntimeError" "cannot schedule new futures after shutdown")
  else .ok (.waiting document)

/-- Ask for the outcome of a document; line breaks are unified before anything else. A request
that the workers do not take has failed already. -/
def ask (s : Source) (document : Value) : Except Fault Ticket :=
  match s.submit (Text.unifyBreaks document.displayOrEmpty) with
  | .ok t => .ok t
  | .error f =>
    if f.kind = "RuntimeError" then .ok (.settled (.ok (Response.failed f.message)))
    else .error f

/-- What a worker makes of the end of a linter. -/
def guarded (result : Except Fault Outcome) : Except Fault Outcome := .ok (outcomeOf result)

end Source

/-- A source and the tickets it has given out, in the order of the requests. -/
structure Pool where
  source : Source
  tickets : List Ticket := []

namespace Pool

inductive Step where
  | request (document : Value)
  /-- A worker comes to a request. -/
  | start (number : Nat)
  /-- The linter has come to an end, as the world would have it. -/
  | finish (number : Nat) (world : World)
  | close

inductive Event where
  /-- The linter is run on a document. -/
  | lint (number : Nat) (document : String)
  | call (c : Call)
  /-- A request is a fault and gives no ticket. -/
  | raised (f : Fault)

def step (a : Step) (p : Pool) : Logged Event Pool :=
  match a with
  | .request document =>
    match p.source.ask document with
    | .ok t => pure { p with tickets := p.tickets ++ [t] }
    | .error f => do
      Logged.publish (.raised f)
      pure p
  | .start number =>
    match p.tickets[number]? with
    | some (.waiting document) => do
      Logged.publish (.lint number document)
      pure { p with tickets := p.tickets.set number (.running document) }
    | _ => pure p
  | .finish number world =>
    match p.tickets[number]? with
    | some (.running document) =>
      let (calls, result) := p.source.linter.run world document
      ⟨{ p with tickets := p.tickets.set number (.settled (Source.guarded result)) },
        calls.map .call⟩
    | _ => pure p
  | .close => pure { source := p.source.close, tickets := p.tickets.map Ticket.takeBack }

def run (steps : List Step) (p : Pool) : Logged Event Pool :=
  steps.foldlM (fun p a => p.step a) p

end Pool
end LiveLint
