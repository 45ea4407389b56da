import LiveLint.Request.Completion
import LiveLint.Timing.Alarm

/-! Lint requests under way. Every request belongs to a generation, and only the newest
generation counts when results are taken from the queue. A pump empties the queue at
intervals as long as any request is in flight. -/

namespace LiveLint

/-- A result that waits to be taken. -/
structure Queued where
  number : Nat
  generation : Nat
  completion : Completion

structure Requests where
  /-- The interval of the pump. -/
  poll : Nat := 35
  /-- What the request of a number comes to at once, if the source does not wait. -/
  atOnce : Nat → Option Completion := fun _ => none
  generation : Nat := 0
  /-- How many requests were made; they are numbered from zero. -/
  made : Nat := 0
  /-- Requests that are not completed, by number and generation. -/
  waiting : List (Nat × Nat) := []
  /-- Requests whose results were not taken yet. -/
  inFlight : List Nat := []
  queue : List Queued := []
  pump : Option Alarm := none

namespace Requests

def ofPoll (ms : Int) (atOnce : Nat → Option Completion) : Requests :=
  { poll := (max 1 ms).toNat, atOnce }

def polling (r : Requests) : Bool := r.pump.isSome

/-- Make a request: a new generation, and the pump runs. -/
def trigger (t : Moment) (r : Requests) : Requests :=
  let generation := r.generation + 1
  { r with
    generation
    made := r.made + 1
    inFlight := r.inFlight ++ [r.made]
    waiting := if (r.atOnce r.made).isNone then r.waiting ++ [(r.made, generation)] else r.waiting
    queue := match r.atOnce r.made with
      | some c => r.queue ++ [⟨r.made, generation, c⟩]
      | none => r.queue
    pump := if r.pump.isNone then some (t.alarm r.poll) else r.pump }

/-- Complete a request that waits; no other request can be completed. -/
def complete? (number : Nat) (c : Completion) (r : Requests) : Option Requests :=
  (r.waiting.find? (·.1 == number)).map fun w =>
    { r with
      waiting := r.waiting.filter (·.1 != number)
      queue := r.queue ++ [⟨number, w.2, c⟩] }

def invalidate (r : Requests) : Requests := { r with generation := r.generation + 1 }

def shutdown (r : Requests) : Requests :=
  { r.invalidate with pump := none, inFlight := [] }

/-- Take the oldest result from the queue. -/
def take? (r : Requests) : Option (Delivery × Requests) :=
  match r.queue with
  | [] => none
  | q :: rest =>
    let delivery := if q.generation = r.generation then .ofCompletion q.generation q.completion
      else .stale
    some (delivery, { r with queue := rest, inFlight := r.inFlight.filter (· != q.number) })

/-- After the queue was emptied: without requests in flight the pump stops. -/
def settle (r : Requests) : Requests := if r.inFlight.isEmpty then { r with pump := none } else r

/-- The pump rings; it is set again before it does anything else. -/
def rearm (t : Moment) (r : Requests) : Requests := { r with pump := some (t.alarm r.poll) }

end Requests
end LiveLint
