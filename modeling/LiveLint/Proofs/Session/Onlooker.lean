import LiveLint.Proofs.Session.Edits

/-! # What can be told of a session from outside

An onlooker sees which requests are made and how they end, when results are taken and when
linting is switched, and keeps books on that. Generations, timers, marks and the tooltip are
not in these books. What is shown after all that was seen is the findings of the newest request
that brought any, unless linting was switched off since. -/

namespace LiveLint

/-! ## The books -/

/-- What an onlooker sees happen. -/
inductive Notice where
  | asked
  /-- The request of a number is ended from outside. -/
  | ended (number : Nat) (c : Completion)
  /-- The oldest result is taken, if there is one. -/
  | taken
  | switched (on : Bool)

/-- The books of an onlooker. -/
structure Onlooker where
  on : Bool
  /-- How many requests were made; they are numbered from zero. -/
  made : Nat := 0
  /-- The newest request, unless linting was switched off since. -/
  newest? : Option Nat := none
  /-- Requests that have not ended. -/
  waiting : List Nat := []
  /-- Requests that have ended and were not taken, in the order of their ends. -/
  results : List (Nat × Completion) := []
  shown : List Finding := []

namespace Onlooker

/-- What the result that is taken next puts in place of what is shown. Nothing does if linting
is off or the request is not the newest. -/
def brought? (x : Onlooker) : Option (List Finding) :=
  match x.results with
  | (number, c) :: _ => if x.on && x.newest? == some number then c.toShow? else none
  | [] => none

/-- A request is made; what the source says at once is its end. -/
def ask (source : Nat → Option Completion) (x : Onlooker) : Onlooker :=
  { x with
    made := x.made + 1
    newest? := some x.made
    waiting := x.waiting ++ if (source x.made).isNone then [x.made] else []
    results := x.results ++ (source x.made).toList.map fun c => (x.made, c) }

/-- A request ends that waits for it; no other request can end. -/
def finish (number : Nat) (c : Completion) (x : Onlooker) : Onlooker :=
  if number ∈ x.waiting then
    { x with
      waiting := x.waiting.filter (· != number)
      results := x.results ++ [(number, c)] }
  else x

def note (source : Nat → Option Completion) (x : Onlooker) : Notice → Onlooker
  | .asked => x.ask source
  | .ended number c => x.finish number c
  | .taken => { x with results := x.results.tail, shown := x.brought?.getD x.shown }
  | .switched on =>
    if x.on && !on then { x with on := false, newest? := none, shown := [] } else { x with on }

def noteAll (source : Nat → Option Completion) (notices : List Notice) (x : Onlooker) : Onlooker :=
  notices.foldl (note source) x

theorem noteAll_append (source : Nat → Option Completion) (notices more : List Notice)
    (x : Onlooker) :
    x.noteAll source (notices ++ more) = (x.noteAll source notices).noteAll source more :=
  List.foldl_append

end Onlooker

namespace Session

variable {P : Type}

/-- What an onlooker notices of a move, apart from requests. -/
def Move.notices : Move P → List Notice
  | .take => [.taken]
  | .step (.complete number c) _ => [.ended number c]
  | .step (.enable on) _ => [.switched on]
  | _ => []

/-- The requests among events, as they are noticed. -/
def askedIn (events : List (Event P)) : List Notice :=
  (events.filterMap Event.request?).map fun _ => .asked

/-- What an onlooker notices of a history. -/
def noticed : List (Move P) → Session P → List Notice
  | [], _ => []
  | m :: history, s => m.notices ++ askedIn (s.move m).events ++ noticed history (s.move m).value

end Session

/-! ## Requests and the books on them -/

namespace Onlooker
open Requests

/-- Where a request under way stands, by number and generation: it is one of the requests that
were made, and it is of the current generation exactly if it is the newest. -/
structure Placed (made current : Nat) (newest? : Option Nat) (w : Nat × Nat) : Prop where
  number : w.1 < made
  generation : w.2 ≤ current
  newest : w.2 = current ↔ newest? = some w.1

/-- The requests are as the books say. -/
structure Agrees (source : Nat → Option Completion) (x : Onlooker) (r : Requests) : Prop where
  source : r.atOnce = source
  made : r.made = x.made
  waiting : r.waiting.map (·.1) = x.waiting
  results : (r.queue.map fun q => (q.number, q.completion)) = x.results
  placed : ∀ w ∈ r.underWay, Placed r.made r.generation x.newest? w

variable {source : Nat → Option Completion} {x : Onlooker} {r r' : Requests}

/-- A result in the queue is of the current generation exactly if it is that of the newest
request. -/
theorem Agrees.newest (h : Agrees source x r) {q : Queued} (hq : q ∈ r.queue) :
    q.generation = r.generation ↔ x.newest? = some q.number := by
  have under : (q.number, q.generation) ∈ r.underWay :=
    List.mem_append_right _ (List.mem_map_of_mem hq)
  exact (h.placed _ under).newest

/-- The pump is in no book. -/
theorem Agrees.rearm (h : Agrees source x r) (t : Moment) : Agrees source x (r.rearm t) :=
  ⟨h.source, h.made, h.waiting, h.results, h.placed⟩

theorem Agrees.settle (h : Agrees source x r) : Agrees source x r.settle := by
  unfold Requests.settle
  split
  · exact ⟨h.source, h.made, h.waiting, h.results, h.placed⟩
  · exact h

/-- A request that is made is the newest, and no other one is any more. -/
theorem Agrees.ask (h : Agrees source x r) (t : Moment) :
    Agrees source (x.ask source) (r.trigger t) := by
  have waits : (r.trigger t).waiting.map (·.1) = (x.ask source).waiting := by
    cases atOnce : source x.made <;>
      simp [Requests.trigger, Onlooker.ask, h.source, h.made, atOnce, ← h.waiting]
  have ended : (r.trigger t).queue.map (fun q => (q.number, q.completion)) =
      (x.ask source).results := by
    cases atOnce : source x.made <;>
      simp [Requests.trigger, Onlooker.ask, h.source, h.made, atOnce, ← h.results]
  refine ⟨h.source, congrArg (· + 1) h.made, waits, ended, fun w hw => ?_⟩
  show Placed (r.made + 1) (r.generation + 1) (some x.made) w
  rcases List.mem_cons.mp ((underWay_trigger r t).mem_iff.mp hw) with rfl | old
  · exact ⟨Nat.lt_succ_self _, Nat.le_refl _, by simp [h.made]⟩
  · obtain ⟨number, generation, -⟩ := h.placed w old
    refine ⟨Nat.lt_succ_of_lt number, Nat.le_succ_of_le generation, ?_⟩
    rw [h.made] at number
    rw [Option.some_inj]
    omega

/-- When a new generation begins without a request, no request is the newest any more. -/
theorem Agrees.invalidate (h : Agrees source x r) (on : Bool) (shown : List Finding) :
    Agrees source { x with on, newest? := none, shown } r.invalidate := by
  refine ⟨h.source, h.made, h.waiting, h.results, fun w hw => ?_⟩
  obtain ⟨number, generation, -⟩ := h.placed w hw
  have old : w.2 ≠ r.generation + 1 := Nat.ne_of_lt (Nat.lt_succ_of_le generation)
  exact ⟨number, Nat.le_succ_of_le generation, fun current => absurd current old, nofun⟩

/-- What is shown and whether linting is on stands beside the books on requests. -/
theorem Agrees.beside (h : Agrees source x r) (on : Bool) (shown : List Finding) :
    Agrees source { x with on, shown } r :=
  ⟨h.source, h.made, h.waiting, h.results, h.placed⟩

theorem Agrees.finish (h : Agrees source x r) {number : Nat} {c : Completion}
    (completed : r.complete? number c = some r') : Agrees source (x.finish number c) r' := by
  obtain ⟨w, found, rfl⟩ := Option.map_eq_some_iff.mp completed
  have within : ∀ v ∈ (afterEnd r number w.2 c).underWay, v ∈ r.underWay := fun v hv =>
    (underWay_ended c found).subset hv
  have named : w.1 = number := by simpa using List.find?_some found
  have waits : number ∈ x.waiting := by
    rw [← h.waiting, ← named]
    exact List.mem_map_of_mem (List.mem_of_find?_eq_some found)
  rw [Onlooker.finish, if_pos waits]
  refine ⟨h.source, h.made, ?_, ?_, fun v hv => h.placed v (within v hv)⟩
  · simp only [← h.waiting, List.filter_map]
    rfl
  · simp [← h.results]

/-- A request that does not wait is not ended. -/
theorem Agrees.unfinished (h : Agrees source x r) {number : Nat} {c : Completion}
    (completed : r.complete? number c = none) : x.finish number c = x := by
  have none : r.waiting.find? (·.1 == number) = none := Option.map_eq_none_iff.mp completed
  refine if_neg fun waits => ?_
  rw [← h.waiting] at waits
  obtain ⟨w, hw, named⟩ := List.mem_map.mp waits
  exact absurd (beq_iff_eq.mpr named) (List.find?_eq_none.mp none w hw)

theorem Agrees.take (h : Agrees source x r) {q : Queued} {rest : List Queued}
    (head : r.queue = q :: rest) :
    Agrees source { x with results := x.results.tail } (r.afterTake q rest) := by
  have within : ∀ w ∈ (afterTake r q rest).underWay, w ∈ r.underWay := by
    intro w hw
    simp only [underWay, afterTake, head] at hw ⊢
    exact ((List.sublist_cons_self _ _).append_left _).subset hw
  refine ⟨h.source, h.made, h.waiting, ?_, fun w hw => h.placed w (within w hw)⟩
  simp [← h.results, head, afterTake]

end Onlooker
end LiveLint
