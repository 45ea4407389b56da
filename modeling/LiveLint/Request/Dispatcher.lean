import LiveLint.Request.Requests
import LiveLint.Timing.Logged

/-! Requests on a clock, with listeners that may make new requests while results are
delivered. Each acceptance uses up one reaction. -/

namespace LiveLint

/-- What a listener does when findings are accepted. -/
inductive Reaction where
  | trigger (document : String)
  | invalidate
  | shutdown

structure Dispatcher where
  now : Nat := 0
  requests : Requests := {}
  reactions : List Reaction := []

namespace Dispatcher

inductive Event where
  | request (document : String)
  | accepted (generation : Nat) (items : List Item) (now : Nat)
  | status (text : String) (now : Nat)

inductive Step where
  | trigger (document : String)
  | complete (number : Nat) (c : Completion)
  | drain
  | advance (ms : Nat)
  | invalidate
  | shutdown

def moment (d : Dispatcher) : Moment := ⟨d.now, Alarm.nextTurn [((), d.requests.pump)]⟩

def trigger (document : String) (d : Dispatcher) : Logged Event Dispatcher := do
  Logged.publish (.request document)
  pure { d with requests := d.requests.trigger d.moment }

def react (reaction : Reaction) (d : Dispatcher) : Logged Event Dispatcher :=
  match reaction with
  | .trigger document => d.trigger document
  | .invalidate => pure { d with requests := d.requests.invalidate }
  | .shutdown => pure { d with requests := d.requests.shutdown }

/-- Publish a delivery; an acceptance lets the listener react. -/
def deliver (delivery : Delivery) (d : Dispatcher) : Logged Event Dispatcher :=
  match delivery with
  | .stale => pure d
  | .status text => do
    Logged.publish (.status text d.now)
    pure d
  | .accepted generation items => do
    Logged.publish (.accepted generation items d.now)
    match d.reactions with
    | [] => pure d
    | reaction :: rest => react reaction { d with reactions := rest }

/-- Take results until the queue is empty; the first argument bounds their number. -/
def takeAll : Nat → Dispatcher → Logged Event Dispatcher
  | 0, d => pure d
  | count + 1, d => match d.requests.take? with
    | none => pure d
    | some (delivery, requests) => do
      takeAll count (← { d with requests := requests }.deliver delivery)

/-- Empty the queue. Every reaction adds at most one result to it. -/
def drain (d : Dispatcher) : Logged Event Dispatcher := do
  let d ← takeAll (d.requests.queue.length + d.reactions.length) d
  pure { d with requests := d.requests.settle }

def ring (a : Alarm) (d : Dispatcher) : Logged Event Dispatcher :=
  let d := { d with now := a.due }
  { d with requests := d.requests.rearm d.moment }.drain

/-- Let time pass up to `limit`; the first argument bounds how often the pump rings. -/
def runTo (limit : Nat) : Nat → Dispatcher → Logged Event Dispatcher
  | 0, d => pure { d with now := limit }
  | rings + 1, d => match d.requests.pump with
    | some a =>
      if a.due ≤ limit then do runTo limit rings (← d.ring a) else pure { d with now := limit }
    | none => pure { d with now := limit }

def step (s : Step) (d : Dispatcher) : Logged Event Dispatcher :=
  match s with
  | .trigger document => d.trigger document
  | .complete number c => match d.requests.complete? number c with
    | some requests => pure { d with requests := requests }
    | none => pure d
  | .drain => d.drain
  | .advance ms => d.runTo (d.now + ms) (ms + 1)
  | .invalidate => pure { d with requests := d.requests.invalidate }
  | .shutdown => pure { d with requests := d.requests.shutdown }

def run (steps : List Step) (d : Dispatcher) : Logged Event Dispatcher :=
  steps.foldlM (fun d s => d.step s) d

end Dispatcher
end LiveLint
