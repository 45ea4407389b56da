import LiveLint.Proofs.Session.Outcomes
import LiveLint.Proofs.Tooltip.Stage

/-! # Findings and their summary

A session tells of the findings it shows and of their summary with separate events. Both come
with every result that is displayed. When linting is switched off, the session tells that there
are no findings, but not what the summary of none is. -/

namespace LiveLint

namespace Stage

variable {P : Type}

def Event.summary? : Event P → Option (Counts × String)
  | .summary counts text => some (counts, text)
  | _ => none

/-- Calls to the surface bring no summary. -/
theorem summary?_perform {t : Moment} {s : Stage P} {call : SurfaceCall} :
    ∀ e ∈ (s.perform t call).events, e.summary? = none := by
  have first : (s.eventOf call).summary? = none := by cases call <;> rfl
  intro e he
  rw [perform, Logged.bind_events, Logged.publish_events, List.singleton_append] at he
  rcases List.mem_cons.mp he with rfl | he
  · exact first
  · cases call with
    | remove number =>
      obtain ⟨_, -, rfl⟩ := List.mem_map.mp he
      rfl
    | add _ _ | setGutter _ _ _ | clearGutter => cases he

theorem summary?_performAll {t : Moment} {calls : List SurfaceCall} {s : Stage P} :
    ∀ e ∈ (s.performAll t calls).events, e.summary? = none := by
  induction calls generalizing s with
  | nil => exact fun _ he => absurd he List.not_mem_nil
  | cons call calls ih =>
    intro e he
    rw [performAll, List.foldlM_cons, Logged.bind_events] at he
    rcases List.mem_append.mp he with he | he
    · exact summary?_perform e he
    · exact ih e he

end Stage

namespace Session

variable {P : Type}

def Event.findings? : Event P → Option (List Finding)
  | .findings xs => some xs
  | _ => none

def Event.summary? : Event P → Option (Counts × String)
  | .stage e => e.summary?
  | _ => none

/-! ## Events without findings -/

/-- Events that tell neither of findings nor of a summary. -/
def Mute (events : List (Event P)) : Prop :=
  ∀ e ∈ events, e.findings? = none ∧ e.summary? = none

theorem Mute.append {events more : List (Event P)} (h : Mute events) (h' : Mute more) :
    Mute (events ++ more) := fun e he => (List.mem_append.mp he).elim (h e) (h' e)

theorem mute_nil : Mute ([] : List (Event P)) := fun _ he => absurd he List.not_mem_nil

theorem mute_setStage {s : Session P} {x : Logged (Stage.Event P) (Stage P)}
    (h : ∀ e ∈ x.events, e.summary? = none) : Mute (s.setStage x).events := by
  intro e he
  obtain ⟨e', he', rfl⟩ := List.mem_map.mp he
  exact ⟨rfl, h e' (List.mem_of_mem_filter he')⟩

theorem mute_setHover {s : Session P} {x : Logged (HoverEvent P) (Hover P)} :
    Mute (s.setHover x).events := by
  refine mute_setStage fun e he => ?_
  obtain ⟨_, -, rfl⟩ := List.mem_map.mp he
  rfl

theorem mute_trigger (s : Session P) : Mute s.trigger.events := by
  unfold trigger
  split
  · intro e he
    obtain rfl := List.mem_singleton.mp he
    exact ⟨rfl, rfl⟩
  · exact mute_nil

theorem mute_takeDown (s : Session P) : Mute s.takeDown.events := by
  obtain ⟨t, left⟩ := s.emptied.detach_events
  rw [takeDown_events]
  refine mute_setHover.append ?_
  split
  · intro e he
    rcases left e he with he | rfl
    · exact mute_setStage Stage.summary?_performAll e he
    · exact ⟨rfl, rfl⟩
  · exact mute_nil

/-! ## What the last events tell -/

/-- The summary of findings. -/
def summaryOf (xs : List Finding) : Counts × String :=
  let counts := countSeverities (group xs)
  (counts, counts.summary)

/-- Linting was switched off, and since then nothing was told of findings or of a summary. -/
def SwitchedOffSince (log : List (Event P)) : Prop :=
  ∃ earlier later, log = earlier ++ .findings [] :: .status "Lint is disabled." :: later ∧
    Mute later

/-- The last summary is that of the last findings, unless linting was switched off since. -/
def Told (log : List (Event P)) : Prop :=
  last? Event.summary? log = (last? Event.findings? log).map summaryOf ∨ SwitchedOffSince log

variable {log events : List (Event P)}

theorem SwitchedOffSince.append (h : SwitchedOffSince log) (mute : Mute events) :
    SwitchedOffSince (log ++ events) := by
  obtain ⟨earlier, later, rfl, since⟩ := h
  exact ⟨earlier, later ++ events, by simp, since.append mute⟩

theorem SwitchedOffSince.findings (h : SwitchedOffSince log) :
    last? Event.findings? log = some [] := by
  obtain ⟨earlier, later, rfl, since⟩ := h
  have tail : ∀ e ∈ Event.status "Lint is disabled." :: later, e.findings? = none :=
    List.forall_mem_cons.mpr ⟨rfl, fun e he => (since e he).1⟩
  rw [← List.singleton_append, ← List.append_assoc, last?_append tail]
  exact last?_concat rfl

theorem Told.append (h : Told log) (mute : Mute events) : Told (log ++ events) := by
  rcases h with told | off
  · left
    rwa [last?_append fun e he => (mute e he).1, last?_append fun e he => (mute e he).2]
  · exact .inr (off.append mute)

theorem switchOff_events (s : Session P) : ∃ cleared,
    s.switchOff.events = cleared ++ [.findings [], .status "Lint is disabled."] :=
  ⟨_, (List.append_assoc _ _ _).symm⟩

/-- Findings that are displayed are told of together with their summary. -/
theorem Told.display (log : List (Event P)) (findings : List Finding) (s : Session P) :
    Told (log ++ (s.display findings).events) := by
  obtain ⟨drawn, e⟩ := s.display_events findings
  have found (log : List (Event P)) :
      last? Event.findings? (log ++ [.findings findings]) = some findings := last?_concat rfl
  have same (log : List (Event P)) : last? Event.summary? (log ++ [.findings findings]) =
      last? Event.summary? log := last?_append (by simp [Event.summary?])
  have summary (log : List (Event P)) :
      last? Event.summary? (log ++ [.stage (Stage.summaryOf (group findings))]) =
        some (summaryOf findings) := last?_concat rfl
  left
  rw [e, List.append_cons drawn, ← List.append_assoc, ← List.append_assoc, found, same, summary]
  rfl

theorem Told.switchOff (log : List (Event P)) (s : Session P) :
    Told (log ++ s.switchOff.events) := by
  obtain ⟨cleared, e⟩ := s.switchOff_events
  right
  rw [e, ← List.append_assoc]
  exact ⟨log ++ cleared, [], rfl, mute_nil⟩

theorem Told.move (h : Told log) (m : Move P) (s : Session P) :
    Told (log ++ (s.move m).events) := by
  have outcome := move_outcome m s
  generalize s.move m = x at outcome
  cases outcome with
  | still _ => exact h.append mute_nil
  | asked _ => exact h.append (mute_trigger _)
  | hovered _ _ => exact h.append mute_setHover
  | displayed _ _ findings => exact .display log findings _
  | reported _ reports =>
    refine h.append fun e he => ?_
    obtain ⟨text, rfl⟩ := reports e he
    exact ⟨rfl, rfl⟩
  | switchedOff _ => exact .switchOff log s
  | ended _ _ _ => exact h.append (mute_takeDown _)

theorem mute_opened (config : LintConfig) (lookup : Option ExampleLookup) (host : Host)
    (view : TooltipView) (source : Nat → Option Completion) (text : String) (pos : P) :
    Mute (opened config lookup host view source text pos).events := by
  unfold opened
  split <;> split <;>
    simp only [Logged.bind_events, Logged.publish_events, Logged.pure_events] <;>
    simp [Mute, Event.findings?, Event.summary?]

/-- **Findings and their summary go together until linting is switched off.** After any run in
which both were told of, the last summary is that of the last findings, except that linting may
have been switched off since anything was told. Then the last findings are none, and the summary
still is whatever it was; it is that of the last findings only if it was that of none. -/
theorem summary_of_findings (config : LintConfig) (lookup : Option ExampleLookup) (host : Host)
    (view : TooltipView) (source : Nat → Option Completion) (text : String) (pos : P)
    (steps : List (Step P)) (xs : List Finding) (summary : Counts × String) :
    let log := (opened config lookup host view source text pos >>= run steps).events
    last? Event.findings? log = some xs → last? Event.summary? log = some summary →
      (summary = summaryOf xs ↔ (SwitchedOffSince log → summary = summaryOf [])) ∧
      (SwitchedOffSince log → xs = []) := by
  intro log findings told
  have blank : Told ([] : List (Event P)) := .inl rfl
  have start : Told (opened config lookup host view source text pos).events :=
    blank.append (mute_opened config lookup host view source text pos)
  have kept : Told log := run_invariant (I := fun log _ => Told log)
    (fun _ s m told => told.move m s) steps _ start
  have none : SwitchedOffSince log → xs = [] := fun off =>
    Option.some.inj (findings.symm.trans off.findings)
  refine ⟨?_, none⟩
  rcases kept with same | off
  · rw [findings, told] at same
    obtain rfl : summary = summaryOf xs := Option.some.inj same
    exact iff_of_true rfl fun off => by rw [none off]
  · rw [none off]
    exact ⟨fun same _ => same, fun same => same off⟩

/-- A result with one error is displayed. -/
theorem summary_of_findings_displayed :
    let found : Finding := ⟨⟨⟨1, 1⟩, ⟨1, 2⟩⟩, .error, "bad", "", "", ""⟩
    let log := (opened {} none {} .plain (fun _ => none) "x" () >>= run
      [.lintNow, .complete 0 (.success [.finding found]), .drain]).events
    last? Event.findings? log = some [found.normalize] ∧
      last? Event.summary? log = some ([(.error, 1)], "1 error") ∧
      (([(.error, 1)], "1 error") = summaryOf [found.normalize] ↔
        (SwitchedOffSince log → ([(.error, 1)], "1 error") = summaryOf [])) := by
  intro found log
  have findings : last? Event.findings? log = some [found.normalize] := by decide +kernel
  have summary : last? Event.summary? log = some ([(.error, 1)], "1 error") := by decide +kernel
  exact ⟨findings, summary, (summary_of_findings {} none {} .plain (fun _ => none) "x" () _ _ _
    findings summary).1⟩

/-- Once linting is switched off there are no findings, but still the summary of an error. -/
theorem summary_outlives_findings :
    let found : Finding := ⟨⟨⟨1, 1⟩, ⟨1, 2⟩⟩, .error, "bad", "", "", ""⟩
    let r := opened {} none {} .plain (fun _ => none) "x" () >>= run
      [.lintNow, .complete 0 (.success [.finding found]), .drain, .enable false]
    r.value.disposed = false ∧ last? Event.findings? r.events = some [] ∧
      last? Event.summary? r.events = some ([(.error, 1)], "1 error") ∧
      ([(.error, 1)], "1 error") ≠ summaryOf [] := by
  intro found r
  have findings : last? Event.findings? r.events = some [] := by decide +kernel
  have summary : last? Event.summary? r.events = some ([(.error, 1)], "1 error") := by
    decide +kernel
  exact ⟨by decide +kernel, findings, summary, by decide +kernel⟩

end Session
end LiveLint
