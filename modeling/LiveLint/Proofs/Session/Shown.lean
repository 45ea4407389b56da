import LiveLint.Proofs.Session.Onlooker
import LiveLint.Proofs.Session.Outcomes

/-! # What a session shows

A session has timers, generations, a queue, marks and a tooltip, but what it shows can be told
from outside: it is what an onlooker has in its books, who sees requests and their ends only. A
result that brings nothing leaves the marks and the editor as they are. -/

namespace LiveLint.Session

variable {P : Type} {source : Nat → Option Completion} {x : Onlooker} {s t : Session P}

/-- A session that has not ended is as the books say. -/
structure Follows (source : Nat → Option Completion) (x : Onlooker) (s : Session P) : Prop where
  live : s.disposed = false
  on : x.on = s.switchedOn
  shown : s.findings = x.shown
  requests : x.Agrees source s.requests

/-- What concerns neither results nor the switch leaves the session as the books say. -/
theorem Follows.still (h : Follows source x s) (disposed : t.disposed = s.disposed)
    (switched : t.switchedOn = s.switchedOn) (findings : t.findings = s.findings)
    (requests : t.requests = s.requests) : Follows source x t :=
  ⟨disposed.trans h.live, h.on.trans switched.symm, findings.trans h.shown,
    requests ▸ h.requests⟩

theorem Follows.cancelled (h : Follows source x s) :
    Follows source x { s with debounce := s.debounce.cancel } := h.still rfl rfl rfl rfl

/-- Events without a request are not noticed. -/
theorem Follows.unasked (h : Follows source x t) {events : List (Event P)}
    (quiet : ∀ e ∈ events, e.request? = none) :
    Follows source (x.noteAll source (askedIn events)) t := by
  rw [askedIn, List.filterMap_eq_nil_iff.mpr quiet]
  exact h

theorem Follows.setHover (h : Follows source x s) (y : Logged (HoverEvent P) (Hover P)) :
    Follows source (x.noteAll source (askedIn (s.setHover y).events)) (s.setHover y).value := by
  have same : Follows source x (s.setHover y).value := h.still rfl rfl rfl rfl
  exact same.unasked request?_setStage

theorem Follows.trigger (h : Follows source x s) :
    Follows source (x.noteAll source (askedIn s.trigger.events)) s.trigger.value := by
  unfold Session.trigger
  split
  · exact ⟨h.live, h.on, h.shown, h.requests.ask _⟩
  · exact h

/-! ## Results -/

theorem take_quiet (h : s.arriving? = none) :
    s.take.value.stage = s.stage ∧ ∀ e, .stage e ∉ s.take.events := by
  obtain ⟨requests, ⟨findings, h', -⟩ | ⟨-, value, events⟩⟩ := s.take_cases
  · rw [h] at h'
    cases h'
  · refine ⟨by rw [value], fun e he => ?_⟩
    obtain ⟨text, h⟩ := events _ he
    cases h

theorem Follows.enabled (h : Follows source x s) : s.enabled = x.on := by
  simp [Session.enabled, h.live, h.on]

/-- What the next result brings can be told from the books. -/
theorem Follows.arriving (h : Follows source x s) : s.arriving? = x.brought? := by
  unfold arriving? Onlooker.brought?
  rw [← h.requests.results]
  cases head : s.requests.queue with
  | nil => rfl
  | cons q rest =>
    have newest : (q.generation == s.requests.generation) = (x.newest? == some q.number) := by
      rw [Bool.eq_iff_iff, beq_iff_eq, beq_iff_eq]
      exact h.requests.newest (head ▸ List.mem_cons_self)
    simp only [List.map_cons, h.enabled, newest]

theorem Follows.take_requests (h : Follows source x s) :
    Onlooker.Agrees source { x with results := x.results.tail } s.take.value.requests := by
  unfold Session.take
  cases head : s.requests.queue with
  | nil =>
    have empty : x.results = [] := by
      rw [← h.requests.results, head]
      rfl
    rw [Requests.take?_nil head, empty, List.tail_nil, ← empty]
    exact h.requests
  | cons q rest =>
    rw [Requests.take?_cons head]
    dsimp only
    rw [deliver_requests]
    exact h.requests.take head

theorem Follows.take (h : Follows source x s) :
    Follows source (x.note source .taken) s.take.value := by
  have shown : s.take.value.findings = (x.note source .taken).shown := by
    rw [take_findings, h.arriving, h.shown]
    rfl
  have requests := h.take_requests.beside x.on (x.note source .taken).shown
  obtain ⟨_, _, _, e⟩ := s.take_value
  rw [e] at shown requests ⊢
  exact ⟨h.live, h.on, shown, requests⟩

theorem Follows.complete (h : Follows source x s) (number : Nat) (c : Completion) :
    let r := s.step (.complete number c)
    Follows source (x.noteAll source (.ended number c :: askedIn r.events)) r.value := by
  intro r
  show Follows source ((x.finish number c).noteAll source (askedIn r.events)) r.value
  simp only [r, step]
  cases completed : s.requests.complete? number c with
  | none =>
    rw [h.requests.unfinished completed]
    exact h
  | some requests =>
    have finished := h.requests.finish completed
    have kept : (x.finish number c).on = x.on ∧ (x.finish number c).shown = x.shown := by
      unfold Onlooker.finish
      split <;> exact ⟨rfl, rfl⟩
    exact ⟨h.live, kept.1.trans h.on, h.shown.trans kept.2.symm, finished⟩

/-! ## Switching -/

theorem request?_switchOff (s : Session P) : ∀ e ∈ s.switchOff.events, e.request? = none := by
  intro e he
  simp only [switchOff, Logged.bind_events, Logged.publish_events, Logged.pure_events,
    List.mem_append, List.mem_singleton, List.not_mem_nil, or_false] at he
  obtain he | he | rfl | rfl := he
  · exact request?_setStage e he
  · exact request?_setStage e he
  · rfl
  · rfl

theorem Follows.setEnabled (h : Follows source x s) (on : Bool) :
    let r := s.setEnabled on
    Follows source (x.noteAll source (.switched on :: askedIn r.events)) r.value := by
  intro r
  show Follows source ((x.note source (.switched on)).noteAll source (askedIn r.events)) r.value
  obtain ⟨same, e⟩ | ⟨-, -, rfl, e⟩ | ⟨-, was, rfl, e⟩ := s.setEnabled_cases on
  · have unswitched : x.on = on := h.on.trans (same.resolve_left (by simp [h.live])).symm
    have noted : x.note source (.switched on) = x := by
      subst unswitched
      exact if_neg (by simp)
    rw [show r = _ from e, noted]
    exact h
  · have noted : x.note source (.switched true) = { x with on := true } := if_neg (by simp)
    have switched : Follows source { x with on := true } { s with switchedOn := true } :=
      ⟨h.live, rfl, h.shown, h.requests.beside _ _⟩
    rw [show r = _ from e, noted]
    exact switched.cancelled.trigger
  · have noted : x.note source (.switched false) =
        { x with on := false, newest? := none, shown := [] } := if_pos (by simp [h.on, was])
    obtain ⟨t, u, value⟩ := s.switchOff_value
    rw [show r = _ from e, noted]
    refine Follows.unasked ?_ s.request?_switchOff
    rw [value]
    exact ⟨h.live, rfl, rfl, h.requests.invalidate _ _⟩

/-! ## Moves -/

/-- What is noticed of a move keeps the books in step with the session, unless the move ends
the session. -/
theorem Follows.move (h : Follows source x s) (m : Move P)
    (live : (s.move m).value.disposed = false) :
    Follows source (x.noteAll source (m.notices ++ askedIn (s.move m).events))
      (s.move m).value := by
  cases m with
  | take =>
    rw [Onlooker.noteAll_append]
    exact h.take.unasked s.request?_take
  | settle => exact ⟨h.live, h.on, h.shown, h.requests.settle⟩
  | pump _ => exact ⟨h.live, h.on, h.shown, h.requests.rearm _⟩
  | wait _ => exact h.still rfl rfl rfl rfl
  | tooltip label a =>
    have later : Follows source x { s with now := a.due } := h.still rfl rfl rfl rfl
    exact later.setHover _
  | quiet a =>
    have rung : Follows source x { s with now := a.due, debounce := s.debounce.cancel } :=
      h.still rfl rfl rfl rfl
    simp only [Session.move, ring]
    split
    · exact rung.trigger
    · exact rung
  | step a single =>
    cases a with
    | advance ms => cases single
    | drain => cases single
    | notify | deleteEditor | deleteView => exact h.still rfl rfl rfl rfl
    | lintNow => exact h.cancelled.trigger
    | dispose => simp [Session.move, step] at live
    | enable on => exact h.setEnabled on
    | complete number c => exact h.complete number c
    | type text =>
      simp only [Session.move, step]
      split <;> exact h.still rfl rfl rfl rfl
    | flush =>
      simp only [Session.move, step, flush]
      split
      · exact h.cancelled.trigger
      · exact h.cancelled
    | hover mark pos =>
      simp only [Session.move, step]
      split
      · exact h.setHover _
      · exact h
    | destroyEditor =>
      simp only [Session.move, step] at live ⊢
      split
      next told => simp [told, editorDestroyed] at live
      next => exact h.still rfl rfl rfl rfl

/-! ## Histories -/

/-- A session that has not ended had not ended before. -/
theorem live_of_perform {history : List (Move P)}
    (live : (s.perform history).value.disposed = false) : s.disposed = false := by
  by_contra ended
  have stays : (s.perform history).value.disposed = true :=
    perform_invariant (I := fun _ s => s.disposed = true) (fun _ _ m h => move_disposed h m)
      history [] (Bool.not_eq_false _ ▸ ended)
  rw [stays] at live
  cases live

theorem Follows.perform (h : Follows source x s) (history : List (Move P))
    (live : (s.perform history).value.disposed = false) :
    Follows source (x.noteAll source (noticed history s)) (s.perform history).value := by
  induction history generalizing x s with
  | nil => exact h
  | cons m history ih =>
    rw [perform_cons, Logged.bind_value] at live ⊢
    rw [noticed, Onlooker.noteAll_append]
    exact ih (h.move m (live_of_perform live)) live

/-- No request has been made when a session is opened. -/
theorem opened_follows (config : LintConfig) (lookup : Option ExampleLookup) (host : Host)
    (view : TooltipView) (source : Nat → Option Completion) (text : String) (pos : P) :
    Follows source { on := config.enabled }
      (opened config lookup host view source text pos).value := by
  rw [opened_value]
  exact ⟨rfl, rfl, rfl, rfl, rfl, rfl, rfl, nofun⟩

/-- **What a session shows can be told from outside.** A run of a session that was opened is a
sequence of moves. After any moves that have not ended the session, its findings are those that
an onlooker has in its books, who starts with none. The results that wait in the queue are those
in the books, and the current generation is that of the newest request there. When the result
that is taken next is not the newest or brings nothing, the renderer, the marks, the surface and
the tooltip stay exactly as they are, and nothing is heard from them. -/
theorem findings_eq_shown (config : LintConfig) (lookup : Option ExampleLookup) (host : Host)
    (view : TooltipView) (source : Nat → Option Completion) (text : String) (pos : P) :
    let s := (opened config lookup host view source text pos).value
    (∀ steps, s.run steps = s.perform (s.moves steps)) ∧
    ∀ history, let t := (s.perform history).value
      let x := Onlooker.noteAll source (noticed history s) { on := config.enabled }
      t.disposed = false →
        t.findings = x.shown ∧
        (t.requests.queue.map fun q => (q.number, q.completion)) = x.results ∧
        (∀ q ∈ t.requests.queue,
          q.generation = t.requests.generation ↔ x.newest? = some q.number) ∧
        (x.brought? = none →
          (t.move .take).value.stage = t.stage ∧ ∀ e, .stage e ∉ (t.move .take).events) := by
  intro s
  refine ⟨fun steps => run_eq_perform steps s, fun history => ?_⟩
  intro t x live
  have follows : Follows source x t :=
    (opened_follows config lookup host view source text pos).perform history live
  refine ⟨follows.shown, follows.requests.results, fun q hq => follows.requests.newest hq, ?_⟩
  intro nothing
  exact take_quiet (follows.arriving.trans nothing)

/-- Of two requests the second ends first: what it brings is shown, less what is no finding,
and the end of the first changes nothing. -/
theorem findings_eq_shown_after_result :
    let s : Session Unit := (opened {} none {} .plain (fun _ => none) "abc" ()).value
    let found : Finding := ⟨⟨⟨0, 1⟩, ⟨0, 4⟩⟩, .error, "bad", "", "", ""⟩
    let history : List (Move Unit) :=
      [.step .lintNow rfl, .step .lintNow rfl,
        .step (.complete 1 (.success [.other .null, .finding found])) rfl,
        .step (.complete 0 (.success [])) rfl, .take]
    let t := (s.perform history).value
    t.disposed = false ∧ t.findings = [found.normalize] ∧
      (t.move .take).value.stage = t.stage ∧ ∀ e, .stage e ∉ (t.move .take).events := by
  intro s found history t
  obtain ⟨shown, -, -, quiet⟩ :=
    (findings_eq_shown {} none {} .plain (fun _ => none) "abc" ()).2 history rfl
  exact ⟨rfl, shown.trans (by decide +kernel), quiet (by decide +kernel)⟩

end LiveLint.Session
