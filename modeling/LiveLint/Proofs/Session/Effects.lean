import LiveLint.Proofs.Request.Acceptance
import LiveLint.Proofs.Session.Moves

/-! # What the parts of a session do

One lemma for each function that moves are made of. What is proved of moves is put together
from these lemmas, so a function is looked into here only. -/

namespace LiveLint

/-- What an end of a request puts in place of what is shown. Nothing is put there by an end
that is a failure without a position, or no outcome at all. -/
def Completion.toShow? : Completion → Option (List Finding)
  | .success items => some ((items.filterMap (·.finding?)).map (·.normalize))
  | .failure e => e.finding?.toOption.join.map fun a => [a.normalize]
  | .listless | .stray _ | .raised _ | .cancelled => none

theorem Completion.Carries.toShow? {c : Completion} {items : List Item} (h : c.Carries items) :
    c.toShow? = some ((items.filterMap (·.finding?)).map (·.normalize)) := by
  cases h with
  | success items => rfl
  | failure h => simp [Completion.toShow?, h, Except.toOption, Item.finding?]

theorem Completion.toShow?_eq_none {c : Completion} (h : ∀ items, ¬ c.Carries items) :
    c.toShow? = none := by
  cases c with
  | success items => exact absurd (.success items) (h items)
  | failure e =>
    cases he : e.finding? with
    | error f => simp [toShow?, he, Except.toOption]
    | ok found =>
      cases found with
      | none => simp [toShow?, he, Except.toOption]
      | some a => exact absurd (.failure he) (h _)
  | listless | stray _ | raised _ | cancelled => rfl

namespace Session

variable {P : Type}

theorem opened_value (config : LintConfig) (lookup : Option ExampleLookup) (host : Host)
    (view : TooltipView) (source : Nat → Option Completion) (text : String) (pos : P) :
    (opened config lookup host view source text pos).value =
      initial config lookup host view source text pos := by
  unfold opened
  split <;> split <;> rfl

@[simp] theorem setHover_value (s : Session P) (x : Logged (HoverEvent P) (Hover P)) :
    (s.setHover x).value = { s with stage := { s.stage with hover := x.value } } := rfl

/-! ## Asking -/

/-- A request changes nothing but the requests. -/
theorem trigger_value (s : Session P) : ∃ requests,
    s.trigger.value = { s with requests := requests } := by
  unfold trigger
  split
  · exact ⟨_, rfl⟩
  · exact ⟨s.requests, rfl⟩

@[simp] theorem trigger_findings (s : Session P) : s.trigger.value.findings = s.findings := by
  obtain ⟨requests, e⟩ := s.trigger_value
  rw [e]

/-! ## Switching and ending -/

/-- A session that has ended, before the tooltip is put away. -/
def closed (s : Session P) : Session P :=
  { s with
    disposed := true
    attached := false
    debounce := s.debounce.cancel
    requests := s.requests.shutdown }

/-- A session that has ended, before its editor is left. -/
def emptied (s : Session P) : Session P :=
  { s.closed with
    findings := []
    stage :=
      { s.stage with hover := (s.stage.hover.dispose s.closed.moment s.viewAlive).value } }

theorem takeDown_value (s : Session P) : s.takeDown.value =
    if s.attached && s.host.alive then s.emptied.detach.value else s.emptied := by
  rw [show s.takeDown.value = (if s.attached && s.host.alive then s.emptied.detach else
    pure s.emptied).value from rfl]
  split <;> rfl

theorem takeDown_events (s : Session P) : s.takeDown.events =
    (s.closed.setHover (s.stage.hover.dispose s.closed.moment s.viewAlive)).events ++
      if s.attached && s.host.alive then s.emptied.detach.events else [] := by
  rw [show s.takeDown.events = _ ++ (if s.attached && s.host.alive then s.emptied.detach else
    pure s.emptied).events from rfl]
  split <;> rfl

theorem detach_value (s : Session P) : ∃ t,
    s.detach.value = { s with listening := false, stage := (s.stage.clear t).value } := by
  refine ⟨moment { s with listening := false }, ?_⟩
  simp only [detach, Logged.bind_value]
  split <;> rfl

theorem detach_events (s : Session P) : ∃ t, ∀ e ∈ s.detach.events,
    e ∈ (s.setStage (s.stage.clear t)).events ∨ e = .provider false := by
  refine ⟨moment { s with listening := false }, fun e he => ?_⟩
  simp only [detach, Logged.bind_events] at he
  rcases List.mem_append.mp he with he | he
  · exact .inl he
  · split at he
    · exact .inr (List.mem_singleton.mp he)
    · cases he

/-- Whether or not the editor is still there, the session is over and its requests are, too. -/
theorem takeDown_ends (s : Session P) :
    s.takeDown.value.disposed = true ∧ s.takeDown.value.requests = s.requests.shutdown := by
  rw [takeDown_value]
  obtain ⟨t, e⟩ := s.emptied.detach_value
  split
  · rw [e]
    exact ⟨rfl, rfl⟩
  · exact ⟨rfl, rfl⟩

theorem takeDown_disposed (s : Session P) : s.takeDown.value.disposed = true := s.takeDown_ends.1

theorem takeDown_requests (s : Session P) :
    s.takeDown.value.requests = s.requests.shutdown := s.takeDown_ends.2

@[simp] theorem dispose_disposed (s : Session P) : s.dispose.value.disposed = true := by
  unfold dispose
  split
  next already => exact already
  next => exact s.takeDown_disposed

theorem setEnabled_cases (on : Bool) (s : Session P) :
    (s.disposed = true ∨ on = s.switchedOn) ∧ s.setEnabled on = pure s ∨
    s.disposed = false ∧ s.switchedOn = false ∧ on = true ∧
      s.setEnabled on = lintNow { s with switchedOn := true } ∨
    s.disposed = false ∧ s.switchedOn = true ∧ on = false ∧ s.setEnabled on = s.switchOff := by
  cases ended : s.disposed <;> cases was : s.switchedOn <;> cases on <;>
    simp [setEnabled, ended, was]

theorem switchOff_value (s : Session P) : ∃ t u, s.switchOff.value =
    { s with
      switchedOn := false
      debounce := s.debounce.cancel
      requests := s.requests.invalidate
      findings := []
      stage := (Stage.clear u
        { s.stage with hover := (s.stage.hover.dispose t true).value }).value } := ⟨_, _, rfl⟩

/-! ## Results -/

/-- What the result that is taken next puts in place of what is shown. Nothing does if the
session is not enabled or the request is not the newest. -/
def arriving? (s : Session P) : Option (List Finding) :=
  match s.requests.queue with
  | q :: _ =>
    if s.enabled && q.generation == s.requests.generation then q.completion.toShow? else none
  | [] => none

theorem enabled_of_arriving {s : Session P} {findings : List Finding}
    (h : s.arriving? = some findings) : s.enabled = true := by
  unfold arriving? at h
  split at h
  · split at h
    next on => exact (Bool.and_eq_true_iff.mp on).1
    next => cases h
  · cases h

theorem display_events (findings : List Finding) (s : Session P) : ∃ drawn,
    (s.display findings).events =
      drawn ++ [.stage (Stage.summaryOf (group findings)), .findings findings] := ⟨_, rfl⟩

/-- An end of the newest request is displayed if it brings something, and else reported if
at all. -/
theorem deliver_ofCompletion (generation : Nat) (c : Completion) (s : Session P) :
    (∃ findings, s.enabled = true ∧ c.toShow? = some findings ∧
      s.deliver (.ofCompletion generation c) = s.display findings) ∨
    (s.enabled = false ∨ c.toShow? = none) ∧
      (s.deliver (.ofCompletion generation c)).value = s ∧
      ∀ e ∈ (s.deliver (.ofCompletion generation c)).events, ∃ text, e = .status text := by
  obtain ⟨items, carries, e⟩ | ⟨empty, text, e⟩ := Delivery.ofCompletion_cases generation c
  · rw [e, deliver, accept]
    split
    next on => exact .inl ⟨_, on, carries.toShow?, rfl⟩
    next off => exact .inr ⟨.inl (Bool.not_eq_true _ ▸ off), rfl, fun _ he => absurd he List.not_mem_nil⟩
  · rw [e]
    exact .inr ⟨.inr (Completion.toShow?_eq_none empty), rfl,
      fun _ he => ⟨text, List.mem_singleton.mp he⟩⟩

/-- A result is displayed if it arrives, and else reported if at all. -/
theorem take_cases (s : Session P) : ∃ requests,
    (∃ findings, s.arriving? = some findings ∧
      s.take = { s with requests := requests }.display findings) ∨
    s.arriving? = none ∧ s.take.value = { s with requests := requests } ∧
      ∀ e ∈ s.take.events, ∃ text, e = .status text := by
  unfold take arriving?
  cases head : s.requests.queue with
  | nil =>
    rw [Requests.take?_nil head]
    exact ⟨s.requests, .inr ⟨rfl, rfl, fun _ he => absurd he List.not_mem_nil⟩⟩
  | cons q rest =>
    rw [Requests.take?_cons head]
    refine ⟨s.requests.afterTake q rest, ?_⟩
    dsimp only [Requests.deliveryOf]
    by_cases newest : q.generation = s.requests.generation
    · rw [if_pos newest, newest, beq_self_eq_true, Bool.and_true]
      obtain ⟨findings, on, brings, shows⟩ | ⟨nothing, value, events⟩ :=
        deliver_ofCompletion s.requests.generation q.completion
          { s with requests := s.requests.afterTake q rest }
      · exact .inl ⟨findings, (if_pos on).trans brings, shows⟩
      · refine .inr ⟨?_, value, events⟩
        rcases nothing with off | nothing
        · exact if_neg (Bool.not_eq_true _ ▸ off)
        · rw [nothing, ite_self]
    · rw [if_neg newest, beq_false_of_ne newest, Bool.and_false]
      exact .inr ⟨rfl, rfl, fun _ he => absurd he List.not_mem_nil⟩

/-- Taking a result changes the requests, the findings and the stage at most. -/
theorem take_value (s : Session P) : ∃ requests findings stage,
    s.take.value = { s with requests := requests, findings := findings, stage := stage } := by
  obtain ⟨requests, ⟨findings, -, e⟩ | ⟨-, e, -⟩⟩ := s.take_cases
  · rw [e]
    exact ⟨requests, findings, _, rfl⟩
  · exact ⟨requests, s.findings, s.stage, e⟩

theorem take_findings (s : Session P) : s.take.value.findings = s.arriving?.getD s.findings := by
  obtain ⟨requests, ⟨findings, h, e⟩ | ⟨h, e, -⟩⟩ := s.take_cases
  · rw [h, e]
    rfl
  · rw [h, e]
    rfl

/-! ## Wiring -/

/-- How a session is connected to its editor. -/
structure Wiring where
  signals : Bool
  attached : Bool
  listening : Bool
  disposed : Bool

def wiring (s : Session P) : Wiring := ⟨s.host.signals, s.attached, s.listening, s.disposed⟩

@[simp] theorem trigger_wiring (s : Session P) : s.trigger.value.wiring = s.wiring := by
  obtain ⟨requests, e⟩ := s.trigger_value
  rw [e]
  rfl

/-- A move that does not end the session leaves it connected as it was. -/
theorem move_wiring (s : Session P) (m : Move P) :
    (s.move m).value.disposed = true ∨ (s.move m).value.wiring = s.wiring := by
  cases m with
  | take =>
    obtain ⟨requests, findings, stage, e⟩ := s.take_value
    rw [move, e]
    exact .inr rfl
  | settle | pump _ | tooltip _ _ | wait _ => exact .inr rfl
  | quiet a =>
    simp only [move, ring]
    split
    · exact .inr (trigger_wiring _)
    · exact .inr rfl
  | step a single =>
    cases a with
    | advance ms => cases single
    | drain => cases single
    | notify | deleteEditor | deleteView => exact .inr rfl
    | lintNow => exact .inr (trigger_wiring _)
    | dispose => exact .inl s.dispose_disposed
    | type text =>
      simp only [move, step]
      split <;> exact .inr rfl
    | flush =>
      simp only [move, step, flush]
      split
      · exact .inr (trigger_wiring _)
      · exact .inr rfl
    | enable on =>
      obtain ⟨-, e⟩ | ⟨-, -, -, e⟩ | ⟨-, -, -, e⟩ := s.setEnabled_cases on <;> rw [move, step, e]
      · exact .inr rfl
      · exact .inr (trigger_wiring _)
      · exact .inr rfl
    | hover mark pos =>
      simp only [move, step]
      split <;> exact .inr rfl
    | complete number c =>
      simp only [move, step]
      split <;> exact .inr rfl
    | destroyEditor =>
      simp only [move, step]
      split
      · exact .inl (dispose_disposed _)
      · exact .inr rfl

/-- A session that has ended stays so. -/
theorem move_disposed {s : Session P} (h : s.disposed = true) (m : Move P) :
    (s.move m).value.disposed = true := by
  obtain ended | same := s.move_wiring m
  · exact ended
  · exact (congrArg Wiring.disposed same).trans h

end Session
end LiveLint
