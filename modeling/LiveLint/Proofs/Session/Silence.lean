import LiveLint.Proofs.Session.Alarms
import LiveLint.Proofs.Session.Ending
import LiveLint.Proofs.Tooltip.Rest

/-! # Silence

Linting can be switched off while changes wait, requests are under way, results lie in the
queue and a tooltip fades. From then on nothing is asked for, shown or told of, whatever
happens to the session and to a living editor, until linting is switched on again. A session
that has ended has no alarm set any more, and cannot be switched on. -/

namespace LiveLint.Session

variable {P : Type}

/-- An event in which nothing is asked for, shown or told of. -/
def Event.silent : Event P → Bool
  | .stage (.hover e) => !e.isShow
  | .provider _ | .fadeTime _ => true
  | .request _ | .stage _ | .findings _ | .status _ => false

/-- The editor is there, and the session hears of it. -/
def hears (s : Session P) : Bool := s.host.signals && s.listening && s.host.alive

/-- A session that is switched off or has ended, and has nothing under way that matters. -/
structure Quiet (s : Session P) : Prop where
  off : s.enabled = false
  debounce : s.debounce.alarm = none
  tooltip : s.stage.hover.AtRest
  stale : s.requests.Stale
  blank : s.disposed = false → s.stage.Blank
  ended : s.disposed = true → s.requests.Idle ∧ s.hears = false

/-! ## Becoming quiet -/

theorem switchOff_quiet {s : Session P} (bounded : s.requests.Bounded) (live : s.disposed = false) :
    Quiet s.switchOff.value := by
  obtain ⟨t, u, e⟩ := s.switchOff_value
  rw [e]
  exact {
    off := rfl
    debounce := rfl
    tooltip := Stage.clear_atRest (Hover.dispose_atRest t true _) u
    stale := bounded.invalidate
    blank := fun _ => Stage.clear_blank u _
    ended := fun ended => by
      have same : s.disposed = true := ended
      rw [live] at same
      cases same }

/-- The end silences a session if its editor is left or gone. -/
theorem takeDown_quiet {s : Session P} (bounded : s.requests.Bounded)
    (editor : s.host.alive = true → s.attached = true) : Quiet s.takeDown.value := by
  have rests := Hover.dispose_atRest s.closed.moment s.viewAlive s.stage.hover
  obtain ⟨t, e⟩ := s.emptied.detach_value
  rw [takeDown_value]
  split
  next there =>
    rw [e]
    exact {
      off := Bool.and_false _
      debounce := rfl
      tooltip := Stage.clear_atRest (s := s.emptied.stage) rests t
      stale := bounded.shutdown
      blank := nofun
      ended := fun _ => ⟨⟨rfl, rfl⟩, by simp [hears]⟩ }
  next gone =>
    have dead : s.host.alive = false :=
      Bool.eq_false_iff.mpr fun alive => gone (by rw [editor alive, alive]; rfl)
    have unheard : s.emptied.hears = false := by
      have same : s.emptied.host = s.host := rfl
      simp [hears, same, dead]
    exact {
      off := Bool.and_false _
      debounce := rfl
      tooltip := rests
      stale := bounded.shutdown
      blank := nofun
      ended := fun _ => ⟨⟨rfl, rfl⟩, unheard⟩ }

/-- A move that switches linting off or ends the session leaves it quiet. -/
theorem quiet_of_off {s : Session P} (bounded : s.requests.Bounded) (connected : Connected s)
    (on : s.enabled = true) {m : Move P} (off : (s.move m).value.enabled = false) :
    Quiet (s.move m).value := by
  have outcome := move_outcome m s
  generalize s.move m = x at outcome off ⊢
  have still : ∀ {t : Session P}, Framed s t → t.enabled = false → Quiet x.value := by
    intro t same off
    rw [same.enabled on] at off
    cases off
  cases outcome with
  | still same => exact still same off
  | asked same => exact still same (trigger_enabled _ ▸ off)
  | hovered same _ => exact still same off
  | displayed same _ _ => exact still same off
  | reported same _ => exact still same off
  | switchedOff live => exact switchOff_quiet bounded live
  | ended same live editor =>
    exact takeDown_quiet (bounded.fewer same.requests) fun alive =>
      (editor alive).trans (connected live).1

/-! ## Staying quiet -/

theorem trigger_off {s : Session P} (off : s.enabled = false) : s.trigger = pure s := by
  rw [trigger, off]
  rfl

theorem silent_setHover {s : Session P} {x : Logged (HoverEvent P) (Hover P)}
    (h : ∀ e ∈ x.events, e.isShow = false) : ∀ e ∈ (s.setHover x).events, e.silent = true := by
  intro e he
  obtain ⟨e', he', rfl⟩ := List.mem_map.mp he
  obtain ⟨e'', he'', rfl⟩ := List.mem_map.mp (List.mem_of_mem_filter he')
  simp [Event.silent, h e'' he'']

theorem silent_takeDown {s : Session P} (blank : s.stage.Blank) :
    ∀ e ∈ s.takeDown.events, e.silent = true := by
  have nothing : ∀ t, s.emptied.stage.clear t = pure s.emptied.stage := fun t =>
    Stage.Blank.clear (s := s.emptied.stage) ⟨blank.live, blank.inGutter⟩ t
  obtain ⟨t, left⟩ := s.emptied.detach_events
  intro e he
  rw [takeDown_events] at he
  rcases List.mem_append.mp he with he | he
  · exact silent_setHover Hover.dispose_events e he
  · split at he
    · rcases left e he with he | rfl
      · rw [nothing t] at he
        cases he
      · rfl
    · cases he

/-- Once the session has ended, the pointer is over the editor only while that is there. -/
def OverEditor (s : Session P) : Step P → Prop
  | .hover _ _ => s.disposed = true → s.host.alive = true
  | _ => True

/-- Nothing is switched on, unless the session has ended. -/
def StaysOff (s : Session P) : Step P → Prop
  | .enable true => s.disposed = true
  | _ => True

/-- The session is quiet afterwards, and nothing was heard of it. -/
structure Calm (x : Logged (Event P) (Session P)) : Prop where
  quiet : Quiet x.value
  silent : ∀ e ∈ x.events, e.silent = true

theorem Quiet.calm {s : Session P} (q : Quiet s) : Calm (pure s) :=
  ⟨q, fun _ he => absurd he List.not_mem_nil⟩

theorem Quiet.take {s : Session P} (q : Quiet s) : Calm s.take := by
  unfold Session.take
  split
  next => exact q.calm
  next delivery requests taken =>
    obtain rfl := q.stale.take taken
    refine Quiet.calm ⟨q.off, q.debounce, q.tooltip, q.stale.fewer (Requests.fewer_take taken),
      q.blank, fun ended => ?_⟩
    obtain ⟨idle, unheard⟩ := q.ended ended
    exact ⟨idle.take taken, unheard⟩

theorem Quiet.notifyChanged {s : Session P} (q : Quiet s) : s.notifyChanged = s := by
  rw [Session.notifyChanged, q.off]
  rfl

theorem Quiet.cancelled {s : Session P} (q : Quiet s) :
    Quiet { s with debounce := s.debounce.cancel } :=
  ⟨q.off, rfl, q.tooltip, q.stale, q.blank, q.ended⟩

/-- The pointer wakes the tooltip only on a living mark, and there is none before the end. After
it no editor that is there is heard of. -/
theorem Quiet.hover {s : Session P} (q : Quiet s) (sound : Sound s)
    (there : s.disposed = true → s.host.alive = true)
    (heard : (s.host.signals && s.listening) = true) (mark : Option Nat) (pos : P) :
    Calm (s.hover mark pos) := by
  have live : s.disposed = false := by
    refine Bool.eq_false_iff.mpr fun ended => ?_
    have unheard := (q.ended ended).2
    simp [hears, heard, there ended] at unheard
  have blank := q.blank live
  obtain ⟨phase, unmarked, fading, restAlarm, fadeAlarm⟩ := q.tooltip
  rw [Session.hover, Hover.move_atRest q.tooltip (blank.filter_alive sound.rendered mark)]
  exact Quiet.calm ⟨q.off, q.debounce, ⟨phase, unmarked, fading, restAlarm, fadeAlarm⟩, q.stale,
    fun _ => ⟨blank.live, blank.inGutter⟩, q.ended⟩

theorem Quiet.dispose {s : Session P} (q : Quiet s)
    (editor : s.disposed = false → s.host.alive = true → s.attached = true) : Calm s.dispose := by
  unfold Session.dispose
  split
  next => exact q.calm
  next live =>
    have live : s.disposed = false := Bool.eq_false_iff.mpr live
    exact ⟨takeDown_quiet q.stale.bounded (editor live), silent_takeDown (q.blank live)⟩

/-- An editor that tells of its end is not heard of afterwards. -/
theorem Quiet.gone {s : Session P} (q : Quiet s) :
    Quiet { s with host := { s.host with alive := !s.host.signals } } := by
  refine ⟨q.off, q.debounce, q.tooltip, q.stale, q.blank, fun ended => ?_⟩
  refine ⟨(q.ended ended).1, ?_⟩
  cases signals : s.host.signals <;> simp [hears, signals]

/-- **A quiet session stays quiet, and nothing is heard of it.** -/
theorem Quiet.move {s : Session P} (q : Quiet s) (sound : Sound s) {m : Move P}
    (fits : Fits (fun s a => OverEditor s a ∧ StaysOff s a) s m) : Calm (s.move m) := by
  cases m with
  | take => exact q.take
  | wait limit => exact Quiet.calm ⟨q.off, q.debounce, q.tooltip, q.stale, q.blank, q.ended⟩
  | settle =>
    refine Quiet.calm ⟨q.off, q.debounce, q.tooltip, q.stale.fewer (Requests.fewer_settle _),
      q.blank, fun ended => ?_⟩
    obtain ⟨idle, unheard⟩ := q.ended ended
    exact ⟨idle.settle, unheard⟩
  | pump a =>
    -- the pump of a session that has ended is not set
    have set : s.requests.pump = some a := by simpa [Fits, timers, eq_comm] using fits
    refine Quiet.calm ⟨q.off, q.debounce, q.tooltip,
      q.stale.fewer (.of_eq rfl rfl (Nat.le_refl _)), q.blank, fun ended => ?_⟩
    rw [(q.ended ended).1.pump] at set
    cases set
  | quiet a => simp [Fits, timers, q.debounce] at fits
  | tooltip label a =>
    obtain ⟨-, -, -, restAlarm, fadeAlarm⟩ := q.tooltip
    cases label <;> simp [Fits, timers, restAlarm, fadeAlarm] at fits
  | step a single =>
    obtain ⟨there, off⟩ := fits
    rw [Session.move]
    cases a with
    | advance ms => cases single
    | drain => cases single
    | deleteView => exact Quiet.calm ⟨q.off, q.debounce, q.tooltip, q.stale, q.blank, q.ended⟩
    | type text =>
      have typed : Quiet { s with text := text } :=
        ⟨q.off, q.debounce, q.tooltip, q.stale, q.blank, q.ended⟩
      simp only [step, typed.notifyChanged, ite_self]
      exact typed.calm
    | notify =>
      rw [step, q.notifyChanged]
      exact q.calm
    | flush =>
      have unwanted : s.debounce.flushes s.enabled = false := by simp [Debounce.flushes, q.off]
      simp only [step, flush, unwanted]
      exact q.cancelled.calm
    | lintNow =>
      rw [step, lintNow, trigger_off q.cancelled.off]
      exact q.cancelled.calm
    | enable on =>
      have kept : s.disposed = true ∨ on = s.switchedOn := by
        cases on with
        | true => exact .inl off
        | false =>
          rcases Bool.and_eq_false_iff.mp q.off with off | ended
          · exact .inr off.symm
          · exact .inl (by simpa using ended)
      rw [step, setEnabled, if_pos (by simpa using kept)]
      exact q.calm
    | hover mark pos =>
      rw [step]
      split
      next heard => exact q.hover sound there heard mark pos
      next => exact q.calm
    | complete number c =>
      rw [step]
      split
      next requests completed =>
        refine Quiet.calm ⟨q.off, q.debounce, q.tooltip,
          q.stale.fewer (Requests.fewer_complete completed), q.blank, fun ended => ?_⟩
        obtain ⟨idle, unheard⟩ := q.ended ended
        exact ⟨idle.complete completed, unheard⟩
      next => exact q.calm
    | dispose => exact q.dispose fun live _ => (sound.connected live).1
    | deleteEditor => exact q.gone.calm
    | destroyEditor =>
      rw [step]
      split
      next told =>
        have signals : s.host.signals = true := (Bool.and_eq_true_iff.mp told).1
        have gone : Quiet { s with
            host := { s.host with alive := !s.host.signals }, attached := false } :=
          ⟨q.gone.off, q.gone.debounce, q.gone.tooltip, q.gone.stale, q.gone.blank, q.gone.ended⟩
        exact gone.dispose fun _ alive => by simp [signals] at alive
      next => exact q.gone.calm

/-! ## Runs -/

/-- Requests under way are no newer than the generation, and a session that is not enabled is
quiet. -/
structure Orderly (s : Session P) : Prop where
  sound : Sound s
  bounded : s.requests.Bounded
  quiet : s.enabled = false → Quiet s

theorem move_bounded {s : Session P} (h : s.requests.Bounded) (m : Move P) :
    (s.move m).value.requests.Bounded := by
  have outcome := move_outcome m s
  generalize s.move m = x at outcome
  cases outcome with
  | still same => exact h.fewer same.requests
  | @asked t same =>
    rcases t.trigger_requests with e | ⟨moment, e⟩
    · rw [e]
      exact h.fewer same.requests
    · rw [e]
      exact (h.fewer same.requests).trigger moment
  | hovered same _ => exact h.fewer same.requests
  | displayed same _ _ => exact h.fewer same.requests
  | reported same _ => exact h.fewer same.requests
  | switchedOff _ => exact h.invalidate.bounded
  | ended same _ _ =>
    rw [takeDown_requests]
    exact (h.fewer same.requests).shutdown.bounded

theorem Orderly.move {s : Session P} (h : Orderly s) {m : Move P} (fits : Fits OverEditor s m) :
    Orderly (s.move m).value := by
  refine ⟨h.sound.move m, move_bounded h.bounded m, fun off => ?_⟩
  cases on : s.enabled with
  | true => exact quiet_of_off h.bounded h.sound.connected on off
  | false =>
    -- a session that is switched on now would be enabled afterwards
    have stays : ∀ single, m = .step (.enable true) single → s.disposed = true := by
      rintro single rfl
      obtain ⟨ended | was, -⟩ | ⟨live, -, -, e⟩ | ⟨-, -, no, -⟩ := s.setEnabled_cases true
      · exact ended
      · simpa [enabled, ← was] using on
      · rw [Session.move, step, e, lintNow, trigger_enabled] at off
        simp [enabled, live] at off
      · cases no
    refine ((h.quiet on).move h.sound ?_).quiet
    cases m with
    | step a single =>
      refine ⟨fits, ?_⟩
      cases a with
      | enable on =>
        cases on with
        | true => exact stays single rfl
        | false => trivial
      | _ => trivial
    | _ => exact fits

theorem opened_orderly (config : LintConfig) (lookup : Option ExampleLookup) (host : Host)
    (view : TooltipView) (source : Nat → Option Completion) (text : String) (pos : P) :
    Orderly (opened config lookup host view source text pos).value := by
  refine ⟨opened_sound config lookup host view source text pos, ?_, ?_⟩ <;> rw [opened_value]
  · exact fun _ hg => absurd hg List.not_mem_nil
  · exact fun off => {
      off := off
      debounce := rfl
      tooltip := ⟨rfl, rfl, rfl, rfl, rfl⟩
      stale := fun _ hg => absurd hg List.not_mem_nil
      blank := fun _ => ⟨rfl, rfl⟩
      ended := fun ended => by cases ended }

theorem setEnabled_false_enabled (s : Session P) : (s.setEnabled false).value.enabled = false := by
  obtain ⟨ended | off, e⟩ | ⟨-, -, no, -⟩ | ⟨-, -, -, e⟩ := s.setEnabled_cases false
  · rw [e]
    simp [enabled, ended]
  · rw [e]
    simp [enabled, ← off]
  · cases no
  · rw [e]
    rfl

theorem Quiet.timers {s : Session P} (q : Quiet s) (ended : s.disposed = true) :
    ∀ t ∈ s.timers, t.2 = none := by
  obtain ⟨-, -, -, restAlarm, fadeAlarm⟩ := q.tooltip
  simp [Session.timers, q.debounce, (q.ended ended).1.pump, restAlarm, fadeAlarm]

/-- **Silence after switching off.** A step that switches linting off or disposes of the session
leaves it not enabled. Whenever a session is not enabled, no later steps make it ask for
anything, mark anything or take a mark away, tell of findings, of a summary or of a status, or
show a tooltip, as long as nothing switches it on and, after its end, the pointer is not over an
editor that is gone. After its end the session cannot be switched on, and no alarm is ever
set. -/
theorem silent_when_off (config : LintConfig) (lookup : Option ExampleLookup) (host : Host)
    (view : TooltipView) (source : Nat → Option Completion) (text : String) (pos : P)
    (before after : List (Step P)) :
    let start := (opened config lookup host view source text pos).value
    let s := (start.run before).value
    let r := s.run after
    ((s.step (.enable false)).value.enabled = false ∧ (s.step .dispose).value.disposed = true) ∧
    (Each afterStep OverEditor (before ++ after) start → Each afterStep StaysOff after s →
      s.enabled = false →
        r.value.enabled = false ∧ (∀ e ∈ r.events, e.silent = true) ∧
        (s.disposed = true → r.value.disposed = true ∧ (∀ t ∈ r.value.timers, t.2 = none) ∧
          ∀ on, r.value.setEnabled on = pure r.value)) := by
  intro start s r
  refine ⟨⟨s.setEnabled_false_enabled, s.dispose_disposed⟩, fun there stays off => ?_⟩
  obtain ⟨earlier, later⟩ := each_append.mp there
  rw [← run_value] at later
  have orderly : Orderly s := run_invariant_of (I := fun _ t => Orderly t)
    (fun _ _ _ fits h => h.move fits) earlier []
    (opened_orderly config lookup host view source text pos)
  obtain ⟨-, quiet, silent⟩ : Sound r.value ∧ Quiet r.value ∧ ∀ e ∈ [] ++ r.events,
      e.silent = true := by
    refine run_invariant_of (I := fun log t => Sound t ∧ Quiet t ∧ ∀ e ∈ log, e.silent = true)
      (fun log t m fits kept => ?_) (later.and stays) []
      ⟨orderly.sound, orderly.quiet off, nofun⟩
    obtain ⟨sound, quiet, silent⟩ := kept
    have calm := quiet.move sound fits
    refine ⟨sound.move m, calm.quiet, fun e he => ?_⟩
    exact (List.mem_append.mp he).elim (silent e) (calm.silent e)
  refine ⟨quiet.off, silent, fun ended => ?_⟩
  have last : r.value.disposed = true := (Ended.run ⟨ended, rfl, rfl⟩ after).disposed
  exact ⟨last, quiet.timers last, fun on => if_pos (by simp [last])⟩

/-- With a tooltip shown and a request under way, linting is switched off. Nothing that comes
then is answered: the result of the request, a rest of the pointer, an edit, and at last the end
of the session and of its editor. No alarm is set afterwards. -/
theorem silent_when_off_under_way :
    let start : Session Unit := (opened {} none {} .plain (fun _ => none) "x" ()).value
    let found : Finding := ⟨⟨⟨1, 1⟩, ⟨1, 2⟩⟩, .error, "bad", "", "", ""⟩
    let before : List (Step Unit) :=
      [.lintNow, .complete 0 (.success [.finding found]), .drain, .hover (some 0) (),
        .advance 200, .type "y", .lintNow, .type "z", .enable false]
    let after : List (Step Unit) :=
      [.complete 1 (.success [.finding found]), .hover (some 0) (), .type "zz", .advance 1000,
        .lintNow, .dispose, .enable true, .advance 1000, .destroyEditor]
    let s := (start.run before).value
    s.enabled = false ∧ (∀ e ∈ (s.run after).events, e.silent = true) ∧
      (start.run (before ++ after)).value.disposed = true ∧
      ∀ t ∈ ((start.run (before ++ after)).value.run [.lintNow]).value.timers, t.2 = none := by
  intro start found before after s
  have silence := silent_when_off {} none {} .plain (fun _ => none) "x" ()
  have there : Each afterStep OverEditor (before ++ after) start := by
    refine ⟨trivial, trivial, trivial, ?_, trivial, trivial, trivial, trivial, trivial,
      trivial, ?_, trivial, trivial, trivial, trivial, trivial, trivial, trivial, trivial⟩
    · exact fun _ => rfl
    · unfold OverEditor
      decide +kernel
  have stays : Each afterStep StaysOff after s := by
    refine ⟨trivial, trivial, trivial, trivial, trivial, trivial, ?_, trivial, trivial, trivial⟩
    unfold StaysOff
    decide +kernel
  have off : s.enabled = false := by decide +kernel
  have offAtLast : (start.run (before ++ after)).value.enabled = false := by decide +kernel
  obtain ⟨-, silent, -⟩ := (silence before after).2 there stays off
  obtain ⟨-, -, atLast⟩ := (silence (before ++ after) [.lintNow]).2
    (each_append.mpr ⟨there, trivial, trivial⟩) ⟨trivial, trivial⟩ offAtLast
  obtain ⟨-, unset, -⟩ := atLast (by decide +kernel)
  exact ⟨off, silent, by decide +kernel, unset⟩

end LiveLint.Session
