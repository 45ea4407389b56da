import LiveLint.Request.Dispatcher

/-! # Requests, one act at a time

A drain and the passing of time are made of smaller acts: a result is taken from the queue,
the listener reacts, the pump is set again. Here every run is cut into such acts. What holds
of every sequence of acts then holds however triggers, completions, drains and reactions are
interleaved, and an invariant has to be kept by single acts only. -/

namespace LiveLint.Dispatcher

inductive Act where
  | trigger (document : String)
  | complete (number : Nat) (c : Completion)
  | invalidate
  | shutdown
  /-- The oldest result is taken from the queue and published. -/
  | take
  /-- The listener does the next thing that it has in store. -/
  | react
  /-- The queue is found empty. -/
  | settle
  /-- The pump rings and is set again. -/
  | ring (a : Alarm)
  | wait (limit : Nat)

/-- What the outside sees of a delivery. -/
def announced (now : Nat) : Delivery → List Event
  | .accepted generation items => [.accepted generation items now]
  | .status text => [.status text now]
  | .stale => []

def act (d : Dispatcher) : Act → Logged Event Dispatcher
  | .trigger document => d.trigger document
  | .complete number c => match d.requests.complete? number c with
    | some requests => pure { d with requests := requests }
    | none => pure d
  | .invalidate => pure { d with requests := d.requests.invalidate }
  | .shutdown => pure { d with requests := d.requests.shutdown }
  | .take => match d.requests.take? with
    | some (delivery, requests) => ⟨{ d with requests := requests }, announced d.now delivery⟩
    | none => pure d
  | .react => match d.reactions with
    | reaction :: rest => react reaction { d with reactions := rest }
    | [] => pure d
  | .settle => pure { d with requests := d.requests.settle }
  | .ring a =>
    let d := { d with now := a.due }
    pure { d with requests := d.requests.rearm d.moment }
  | .wait limit => pure { d with now := limit }

def perform (acts : List Act) (d : Dispatcher) : Logged Event Dispatcher := acts.foldlM act d

@[simp] theorem perform_nil (d : Dispatcher) : d.perform [] = pure d := rfl

theorem perform_cons (a : Act) (acts : List Act) (d : Dispatcher) :
    d.perform (a :: acts) = d.act a >>= perform acts := rfl

theorem perform_one (a : Act) (d : Dispatcher) : d.perform [a] = d.act a := bind_pure (d.act a)

theorem perform_append (acts more : List Act) (d : Dispatcher) :
    d.perform (acts ++ more) = d.perform acts >>= perform more := List.foldlM_append

/-! ## The acts of a run -/

/-- Only an acceptance lets the listener react. -/
def followUp : Delivery → List Act
  | .accepted _ _ => [.react]
  | _ => []

def takeActs : Nat → Dispatcher → List Act
  | 0, _ => []
  | count + 1, d => match d.requests.take? with
    | none => []
    | some (delivery, requests) => .take :: followUp delivery ++
        takeActs count ({ d with requests := requests }.deliver delivery).value

def drainActs (d : Dispatcher) : List Act :=
  takeActs (d.requests.queue.length + d.reactions.length) d ++ [.settle]

def waitActs (limit : Nat) : Nat → Dispatcher → List Act
  | 0, _ => [.wait limit]
  | rings + 1, d => match d.requests.pump with
    | some a =>
      if a.due ≤ limit then
        .ring a :: drainActs (d.act (.ring a)).value ++ waitActs limit rings (d.ring a).value
      else [.wait limit]
    | none => [.wait limit]

def stepActs (d : Dispatcher) : Step → List Act
  | .trigger document => [.trigger document]
  | .complete number c => [.complete number c]
  | .drain => d.drainActs
  | .advance ms => waitActs (d.now + ms) (ms + 1) d
  | .invalidate => [.invalidate]
  | .shutdown => [.shutdown]

/-- The acts of which a run consists. -/
def acts : List Step → Dispatcher → List Act
  | [], _ => []
  | s :: steps, d => d.stepActs s ++ acts steps (d.step s).value

theorem deliver_eq_perform {d : Dispatcher} {delivery : Delivery} {requests : Requests}
    (h : d.requests.take? = some (delivery, requests)) :
    { d with requests := requests }.deliver delivery = d.perform (.take :: followUp delivery) := by
  have taken : d.act .take =
      ⟨{ d with requests := requests }, announced d.now delivery⟩ := by simp [act, h]
  rw [perform_cons, taken]
  cases delivery with
  | accepted generation items =>
    cases hr : d.reactions <;>
      simp [deliver, followUp, perform_cons, act, announced, bind, pure, Logged.publish]
  | status text => rfl
  | stale => rfl

theorem takeAll_eq_perform (count : Nat) (d : Dispatcher) :
    takeAll count d = d.perform (takeActs count d) := by
  induction count generalizing d with
  | zero => rfl
  | succ count ih =>
    simp only [takeAll, takeActs]
    cases h : d.requests.take? with
    | none => rfl
    | some taken =>
      obtain ⟨delivery, requests⟩ := taken
      dsimp only
      rw [perform_append, ← deliver_eq_perform h]
      exact Logged.bind_congr (ih _)

theorem drain_eq_perform (d : Dispatcher) : d.drain = d.perform d.drainActs := by
  simp only [drain, drainActs, perform_append, takeAll_eq_perform]
  rfl

theorem runTo_eq_perform (limit rings : Nat) (d : Dispatcher) :
    runTo limit rings d = d.perform (waitActs limit rings d) := by
  induction rings generalizing d with
  | zero => rfl
  | succ rings ih =>
    simp only [runTo, waitActs]
    cases d.requests.pump with
    | none => rfl
    | some a =>
      dsimp only
      split
      · have rung : d.ring a = d.perform (.ring a :: drainActs (d.act (.ring a)).value) := by
          rw [perform_cons]
          exact drain_eq_perform (d.act (.ring a)).value
        rw [perform_append, ← rung]
        exact Logged.bind_congr (ih _)
      · rfl

theorem step_eq_perform (s : Step) (d : Dispatcher) : d.step s = d.perform (d.stepActs s) := by
  cases s with
  | drain => exact drain_eq_perform d
  | advance ms => exact runTo_eq_perform _ _ d
  | complete number c => exact (perform_one (.complete number c) d).symm
  | trigger document => exact (perform_one (.trigger document) d).symm
  | invalidate => exact (perform_one .invalidate d).symm
  | shutdown => exact (perform_one .shutdown d).symm

/-- **A run is the sequence of its acts**, with the same states and the same events. -/
theorem run_eq_perform (steps : List Step) (d : Dispatcher) :
    d.run steps = d.perform (d.acts steps) := by
  induction steps generalizing d with
  | nil => rfl
  | cons s steps ih =>
    rw [acts, perform_append, ← step_eq_perform]
    exact Logged.bind_congr (ih _)

end LiveLint.Dispatcher
