import LiveLint.Proofs.Timing.Since
import LiveLint.Timing.Debounce
import Mathlib.Data.List.Induction

/-! # When a debounced action is done

A change counts if it is made while the action is switched on. It lets the action wait for the
delay that is in force then, in place of any earlier change. What ends the waiting is another
change that counts, a cancel, a flush, or that the time has come; and only in the last two
cases is the action done, if it is switched on. Here this is said of the history of steps, and
the alarm of a debounced action is shown to do it. -/

namespace LiveLint.DebounceRun

/-- An action that does not notify itself, before anything has happened. -/
def idle (delay : Int) (on : Bool) : DebounceRun :=
  { debounce := Debounce.setDelay delay {}, enabled := on }

/-! ## Histories -/

/-- How much time passes in a history. -/
def elapsed : List Step → Nat
  | [] => 0
  | .advance ms :: steps => ms + elapsed steps
  | _ :: steps => elapsed steps

/-- The delay that is asked for after a history; it may be negative. -/
def delayAfter (delay : Int) (steps : List Step) : Int :=
  steps.foldl (fun delay s => match s with | .setDelay ms => ms | _ => delay) delay

/-- Whether the action is switched on after a history. -/
def onAfter (on : Bool) (steps : List Step) : Bool :=
  steps.foldl (fun on s => match s with | .enable on => on | _ => on) on

/-- A step at a time, with the action switched on or not, that does not end the waiting until
`due`. -/
def Keeps (on : Bool) (now due : Nat) : Step → Prop
  | .notify => on = false
  | .advance ms => now + ms < due
  | .cancel | .flush => False
  | .setDelay _ | .enable _ => True

/-- After a history the action waits until `due`: a change that counted was made, its delay ends
then, and nothing has ended the waiting since. -/
def Awaits (delay : Int) (on : Bool) (steps : List Step) (due : Nat) : Prop :=
  ∃ before after, steps = before ++ .notify :: after ∧ onAfter on before = true ∧
    due = elapsed before + (delayAfter delay before).toNat ∧
    ∀ between s rest, after = between ++ s :: rest →
      let past := before ++ .notify :: between
      Keeps (onAfter on past) (elapsed past) due s

/-- How many changes of a history count. -/
def counted (on : Bool) : List Step → Nat
  | [] => 0
  | s :: steps => (if s = .notify ∧ on = true then 1 else 0) + counted (onAfter on [s]) steps

/-- Changes that follow each other in less than the delay, `since` after an earlier one. -/
def Burst (delay : Nat) : Nat → List Step → Prop
  | _, [] => True
  | _, .notify :: steps => Burst delay 0 steps
  | since, .advance ms :: steps => since + ms < delay ∧ Burst delay (since + ms) steps
  | _, _ => False

/-- Nothing but time passes. -/
def Quiet (steps : List Step) : Prop := ∀ s ∈ steps, ∃ ms, s = .advance ms

variable {delay : Int} {on : Bool}

theorem awaits_iff {steps : List Step} {due : Nat} : Awaits delay on steps due ↔
    Since (fun before s => s = .notify ∧ onAfter on before = true ∧
      due = elapsed before + (delayAfter delay before).toNat)
      (fun past s => Keeps (onAfter on past) (elapsed past) due s) steps := by
  constructor
  · rintro ⟨before, after, split, counts, ends, kept⟩
    exact ⟨before, .notify, after, split, ⟨rfl, counts, ends⟩, kept⟩
  · rintro ⟨before, _, after, split, ⟨rfl, counts, ends⟩, kept⟩
    exact ⟨before, after, split, counts, ends, kept⟩

theorem not_awaits_nil {due : Nat} : ¬ Awaits delay on [] due := by
  rw [awaits_iff]
  exact not_since_nil

theorem awaits_concat {steps : List Step} {s : Step} {due : Nat} :
    Awaits delay on (steps ++ [s]) due ↔
      (s = .notify ∧ onAfter on steps = true ∧
        due = elapsed steps + (delayAfter delay steps).toNat) ∨
      (Awaits delay on steps due ∧ Keeps (onAfter on steps) (elapsed steps) due s) := by
  rw [awaits_iff, awaits_iff, since_concat]

theorem counted_concat (on : Bool) (steps : List Step) (s : Step) :
    counted on (steps ++ [s]) =
      counted on steps + if s = .notify ∧ onAfter on steps = true then 1 else 0 := by
  induction steps generalizing on with
  | nil => exact Nat.add_comm _ _
  | cons first steps ih =>
    rw [List.cons_append, counted, ih, counted, Nat.add_assoc]
    rfl

/-! ## One step -/

theorem run_concat (steps : List Step) (s : Step) (r : DebounceRun) :
    r.run (steps ++ [s]) = r.run steps >>= step s := by
  simp [run]

theorem run_cons (s : Step) (steps : List Step) (r : DebounceRun) :
    r.run (s :: steps) = r.step s >>= run steps := rfl

theorem run_append (steps more : List Step) (r : DebounceRun) :
    r.run (steps ++ more) = r.run steps >>= run more := List.foldlM_append

theorem fire_single {r : DebounceRun} (single : r.repeats = 0) : r.fire = ⟨r, [r.now]⟩ := by
  rw [fire, if_pos single]
  rfl

/-- An action whose time has come is done if it is switched on. -/
theorem advance_rings {r : DebounceRun} (single : r.repeats = 0) {ms : Nat} {a : Alarm}
    (set : r.debounce.alarm = some a) (due : a.due ≤ r.now + ms) :
    r.step (.advance ms) =
      ⟨{ r with now := r.now + ms, debounce := r.debounce.cancel },
        if r.enabled then [a.due] else []⟩ := by
  simp only [step, runTo, set, single, if_pos due, ring]
  split
  · rw [fire_single rfl]
    rfl
  · rfl

theorem advance_waits {r : DebounceRun} {ms : Nat}
    (waits : ∀ a, r.debounce.alarm = some a → r.now + ms < a.due) :
    r.step (.advance ms) = pure { r with now := r.now + ms } := by
  simp only [step, runTo]
  cases set : r.debounce.alarm with
  | none => rfl
  | some a => exact if_neg (Nat.not_le.mpr (waits a set))

theorem advance_cases {r : DebounceRun} (single : r.repeats = 0) (ms : Nat) :
    (∃ a, r.debounce.alarm = some a ∧ a.due ≤ r.now + ms ∧
      r.step (.advance ms) =
        ⟨{ r with now := r.now + ms, debounce := r.debounce.cancel },
          if r.enabled then [a.due] else []⟩) ∨
    (∀ a, r.debounce.alarm = some a → r.now + ms < a.due) ∧
      r.step (.advance ms) = pure { r with now := r.now + ms } := by
  by_cases rings : ∃ a, r.debounce.alarm = some a ∧ a.due ≤ r.now + ms
  · obtain ⟨a, set, due⟩ := rings
    exact .inl ⟨a, set, due, advance_rings single set due⟩
  · have waits : ∀ a, r.debounce.alarm = some a → r.now + ms < a.due := fun a set =>
      Nat.not_le.mp fun due => rings ⟨a, set, due⟩
    exact .inr ⟨waits, advance_waits waits⟩

theorem step_flush {r : DebounceRun} (single : r.repeats = 0) :
    r.step .flush =
      ⟨{ r with debounce := r.debounce.cancel },
        if r.debounce.pending && r.enabled then [r.now] else []⟩ := by
  rw [step, flush, Debounce.flushes]
  by_cases wanted : (r.debounce.pending && r.enabled) = true
  · rw [if_pos wanted, if_pos wanted]
    exact fire_single single
  · rw [if_neg wanted, if_neg wanted]
    rfl

/-- Only time and a flush lead to the action. -/
theorem step_events_nil (r : DebounceRun) {s : Step} (untimed : ∀ ms, s ≠ .advance ms)
    (unflushed : s ≠ .flush) : (r.step s).events = [] := by
  cases s with
  | advance ms => exact absurd rfl (untimed ms)
  | flush => exact absurd rfl unflushed
  | notify | cancel | setDelay _ | enable _ => rfl

/-- An alarm is set until then. -/
def DueAt (r : DebounceRun) (due : Nat) : Prop := r.debounce.alarm.map (·.due) = some due

/-- An alarm after a step was set by it, or was kept by it. -/
theorem dueAt_step {r : DebounceRun} (single : r.repeats = 0) (s : Step) (due : Nat) :
    (r.step s).value.DueAt due ↔
      (s = .notify ∧ r.enabled = true ∧ due = r.now + r.debounce.delay) ∨
      (r.DueAt due ∧ Keeps r.enabled r.now due s) := by
  unfold DueAt
  cases s with
  | notify =>
    cases on : r.enabled <;>
      simp [step, notify, Debounce.notify, Moment.alarm, Keeps, on, eq_comm]
  | advance ms =>
    obtain ⟨a, set, rings, e⟩ | ⟨waits, e⟩ := advance_cases single ms
    · have ended : ¬ (a.due = due ∧ r.now + ms < due) := by omega
      simp [e, set, Debounce.cancel, Keeps, ended]
    · have kept : ∀ a, r.debounce.alarm = some a → a.due = due → r.now + ms < due :=
        fun a set same => same ▸ waits a set
      simpa [e, Keeps] using kept
  | cancel => simp [step, Debounce.cancel, Keeps]
  | flush => simp [step_flush single, Debounce.cancel, Keeps]
  | setDelay ms => simp [step, Debounce.setDelay, Keeps]
  | enable on => simp [step, Keeps]

/-! ## Histories and alarms -/

/-- The time, the delay and the switch of an action that does not notify itself. -/
structure Reads (time : Nat) (delay : Int) (on : Bool) (r : DebounceRun) : Prop where
  now : r.now = time
  delay : r.debounce.delay = delay.toNat
  enabled : r.enabled = on
  single : r.repeats = 0

theorem Reads.step {time : Nat} {r : DebounceRun} (h : Reads time delay on r) (s : Step) :
    Reads (time + elapsed [s]) (delayAfter delay [s]) (onAfter on [s]) (r.step s).value := by
  obtain ⟨now, delays, enabled, single⟩ := h
  cases s with
  | notify =>
    have same : (r.step .notify).value.debounce.delay = r.debounce.delay := by
      simp only [DebounceRun.step, notify, Debounce.notify, Logged.pure_value]
      split <;> rfl
    exact ⟨now, same.trans delays, enabled, single⟩
  | advance ms =>
    have later : r.now + ms = time + elapsed [.advance ms] := by simp [elapsed, now]
    obtain ⟨a, -, -, e⟩ | ⟨-, e⟩ := advance_cases single ms <;>
      exact e ▸ ⟨later, delays, enabled, single⟩
  | flush =>
    rw [step_flush single]
    exact ⟨now, delays, enabled, single⟩
  | cancel => exact ⟨now, delays, enabled, single⟩
  | setDelay ms => exact ⟨now, rfl, enabled, single⟩
  | enable b => exact ⟨now, delays, rfl, single⟩

theorem elapsed_append (steps more : List Step) :
    elapsed (steps ++ more) = elapsed steps + elapsed more := by
  induction steps with
  | nil => exact (Nat.zero_add _).symm
  | cons s steps ih => cases s <;> simp [elapsed, ih, Nat.add_assoc]

/-- A debounced action knows the time, the delay and the switch of its history. -/
theorem reads_run (delay : Int) (on : Bool) (steps : List Step) :
    Reads (elapsed steps) (delayAfter delay steps) (onAfter on steps)
      ((idle delay on).run steps).value := by
  induction steps using List.reverseRecOn with
  | nil => exact ⟨rfl, rfl, rfl, rfl⟩
  | append_singleton steps s ih =>
    rw [run_concat, elapsed_append, delayAfter, onAfter, List.foldl_append, List.foldl_append]
    exact ih.step s

/-- **The alarm is set as long as the action waits.** -/
theorem dueAt_run_iff (delay : Int) (on : Bool) (steps : List Step) (due : Nat) :
    ((idle delay on).run steps).value.DueAt due ↔ Awaits delay on steps due := by
  induction steps using List.reverseRecOn generalizing due with
  | nil => exact iff_of_false nofun not_awaits_nil
  | append_singleton steps s ih =>
    obtain ⟨now, delays, enabled, single⟩ := reads_run delay on steps
    rw [run_concat, Logged.bind_value, dueAt_step single, ih, awaits_concat, now, delays, enabled]

theorem dueAt_iff {r : DebounceRun} {due : Nat} :
    r.DueAt due ↔ ∃ a, r.debounce.alarm = some a ∧ a.due = due := Option.map_eq_some_iff

theorem pending_iff {r : DebounceRun} : r.debounce.pending = true ↔ ∃ due, r.DueAt due := by
  simp [Debounce.pending, DueAt, Option.isSome_iff_exists]

theorem advance_events_iff {r : DebounceRun} (single : r.repeats = 0) (ms due : Nat) :
    (r.step (.advance ms)).events = [due] ↔
      r.enabled = true ∧ due ≤ r.now + ms ∧ r.DueAt due := by
  obtain ⟨a, set, rings, e⟩ | ⟨waits, e⟩ := advance_cases single ms
  · rw [e, dueAt_iff]
    cases r.enabled with
    | false => simp
    | true =>
      simp only [if_true, List.cons.injEq, and_true, true_and, set, Option.some.injEq,
        exists_eq_left']
      constructor
      · rintro rfl
        exact ⟨rings, rfl⟩
      · exact And.right
  · rw [e]
    refine iff_of_false nofun ?_
    rintro ⟨-, early, dueAt⟩
    obtain ⟨a, set, rfl⟩ := dueAt_iff.mp dueAt
    exact Nat.not_le.mpr (waits a set) early

theorem advance_events_length {r : DebounceRun} (single : r.repeats = 0) (ms : Nat) :
    (r.step (.advance ms)).events.length ≤ 1 := by
  obtain ⟨a, -, -, e⟩ | ⟨-, e⟩ := advance_cases single ms
  · rw [e]
    cases r.enabled <;> simp
  · rw [e]
    exact Nat.zero_le 1

/-! ## How often the action is done -/

/-- The action is done in place of waiting for it, and it waits only for a change that counts. -/
theorem events_add_pending_step {r : DebounceRun} (single : r.repeats = 0) (s : Step) :
    (r.step s).events.length + (r.step s).value.debounce.pending.toNat ≤
      r.debounce.pending.toNat + if s = .notify ∧ r.enabled = true then 1 else 0 := by
  cases s with
  | notify =>
    cases on : r.enabled <;> simp [step, notify, Debounce.notify, Debounce.pending, on]
  | advance ms =>
    obtain ⟨a, set, -, e⟩ | ⟨-, e⟩ := advance_cases single ms
    · rw [e]
      cases r.enabled <;> simp [Debounce.pending, Debounce.cancel, set]
    · simp [e]
  | flush =>
    rw [step_flush single]
    cases pending : r.debounce.pending <;> cases r.enabled <;>
      simp [Debounce.pending, Debounce.cancel]
  | cancel => simp [step, Debounce.pending, Debounce.cancel]
  | setDelay ms => simp [step, Debounce.pending, Debounce.setDelay]
  | enable b => simp [step]

theorem events_add_pending_le_counted (delay : Int) (on : Bool) (steps : List Step) :
    ((idle delay on).run steps).events.length +
      ((idle delay on).run steps).value.debounce.pending.toNat ≤ counted on steps := by
  induction steps using List.reverseRecOn with
  | nil => exact Nat.le_refl _
  | append_singleton steps s ih =>
    obtain ⟨-, -, enabled, single⟩ := reads_run delay on steps
    have last := events_add_pending_step single s
    rw [enabled] at last
    rw [run_concat, counted_concat, Logged.bind_value, Logged.bind_events, List.length_append]
    omega

/-! ## Bursts -/

/-- Nothing happens while time passes without an alarm. -/
theorem run_quiet_unset {r : DebounceRun} (unset : r.debounce.alarm = none) {quiet : List Step}
    (h : Quiet quiet) : (r.run quiet).events = [] := by
  induction quiet generalizing r with
  | nil => rfl
  | cons s quiet ih =>
    obtain ⟨ms, rfl⟩ := h s List.mem_cons_self
    rw [run_cons, advance_waits fun a set => by rw [unset] at set; cases set]
    exact ih unset fun s hs => h s (List.mem_cons_of_mem _ hs)

/-- An action that waits is done once when it is quiet long enough. -/
theorem run_quiet {r : DebounceRun} (single : r.repeats = 0) (enabled : r.enabled = true)
    {due : Nat} (dueAt : r.DueAt due) {quiet : List Step} (h : Quiet quiet) (filled : quiet ≠ [])
    (long : due ≤ r.now + elapsed quiet) : (r.run quiet).events = [due] := by
  induction quiet generalizing r with
  | nil => exact absurd rfl filled
  | cons s quiet ih =>
    obtain ⟨ms, rfl⟩ := h s List.mem_cons_self
    have rest : Quiet quiet := fun s hs => h s (List.mem_cons_of_mem _ hs)
    obtain ⟨a, set, rfl⟩ := dueAt_iff.mp dueAt
    rw [elapsed, ← Nat.add_assoc] at long
    rw [run_cons, Logged.bind_events]
    by_cases rings : a.due ≤ r.now + ms
    · rw [advance_rings single set rings, if_pos enabled, run_quiet_unset rfl rest]
      rfl
    · have waits : ∀ b, r.debounce.alarm = some b → r.now + ms < b.due := by
        intro b same
        obtain rfl : a = b := Option.some.inj (set.symm.trans same)
        exact Nat.not_le.mp rings
      have more : quiet ≠ [] := by
        rintro rfl
        exact rings long
      rw [advance_waits waits]
      exact ih single enabled dueAt rest more long

/-- During a burst the action is not done, and after it the action waits no longer than the
delay. -/
theorem run_burst {r : DebounceRun} (single : r.repeats = 0) (enabled : r.enabled = true)
    {last since : Nat} (now : r.now = last + since) (dueAt : r.DueAt (last + r.debounce.delay))
    {steps : List Step} (h : Burst r.debounce.delay since steps) :
    let x := r.run steps
    x.events = [] ∧ x.value.repeats = 0 ∧ x.value.enabled = true ∧
      ∃ due, x.value.DueAt due ∧ due ≤ x.value.now + r.debounce.delay := by
  induction steps generalizing r last since with
  | nil => exact ⟨rfl, single, enabled, _, dueAt, by simp [run, now]⟩
  | cons s steps ih =>
    cases s with
    | notify =>
      have again : r.notify.DueAt (r.now + r.notify.debounce.delay) := by
        simp [notify, Debounce.notify, enabled, DueAt, Moment.alarm]
      have same : r.notify.debounce.delay = r.debounce.delay := by
        simp [notify, Debounce.notify, enabled]
      have rest := ih (r := r.notify) single enabled (Nat.add_zero _).symm again (same ▸ h)
      rw [same] at rest
      exact rest
    | advance ms =>
      obtain ⟨short, h⟩ := h
      obtain ⟨a, set, due⟩ := dueAt_iff.mp dueAt
      have waits : ∀ b, r.debounce.alarm = some b → r.now + ms < b.due := by
        intro b same
        obtain rfl : a = b := Option.some.inj (set.symm.trans same)
        omega
      have rest := ih (r := { r with now := r.now + ms }) single enabled
        (by rw [now, Nat.add_assoc]) dueAt h
      rw [run_cons, advance_waits waits]
      exact rest
    | cancel | flush | setDelay _ | enable _ => cases h

/-! ## The law -/

/-- **An action is done after quiet.** While time passes, the action is done at a time exactly if
it is switched on then and waits until then, and no more than once. A flush does it exactly if
it waits and is switched on, and ends the waiting in any case; no other step does it. So it is
never done more often than there were changes that count; and every burst of changes, with the
action switched on and followed by quiet for the delay, lets it be done once. -/
theorem done_after_quiet (delay : Int) (on : Bool) (steps : List Step) :
    let r := ((idle delay on).run steps).value
    (∀ ms due, (r.step (.advance ms)).events = [due] ↔
      onAfter on steps = true ∧ due ≤ elapsed steps + ms ∧ Awaits delay on steps due) ∧
    (∀ ms, (r.step (.advance ms)).events.length ≤ 1) ∧
    (r.debounce.pending = true ↔ ∃ due, Awaits delay on steps due) ∧
    (r.step .flush).events =
      (if r.debounce.pending && onAfter on steps then [elapsed steps] else []) ∧
    (r.step .flush).value.debounce.pending = false ∧
    (∀ s, (∀ ms, s ≠ .advance ms) → s ≠ .flush → (r.step s).events = []) ∧
    ((idle delay on).run steps).events.length ≤ counted on steps ∧
    ∀ burst quiet, onAfter on steps = true → Burst (delayAfter delay steps).toNat 0 burst →
      Quiet quiet → quiet ≠ [] → (delayAfter delay steps).toNat ≤ elapsed quiet →
        (r.run (.notify :: burst ++ quiet)).events.length = 1 := by
  intro r
  obtain ⟨now, delays, enabled, single⟩ := reads_run delay on steps
  have waits : ∀ due, r.DueAt due ↔ Awaits delay on steps due := dueAt_run_iff delay on steps
  refine ⟨fun ms due => ?_, advance_events_length single, ?_, ?_, ?_, fun s => step_events_nil r,
    ?_, fun burst quiet switched bursts quiets filled long => ?_⟩
  · rw [advance_events_iff single, waits, now, enabled]
  · simp only [pending_iff, waits]
  · rw [step_flush single, now, enabled]
  · rw [step_flush single]
    rfl
  · exact Nat.le_of_add_right_le (events_add_pending_le_counted delay on steps)
  · have notified : r.notify.DueAt (r.now + r.notify.debounce.delay) := by
      simp [r, notify, Debounce.notify, enabled, switched, DueAt, Moment.alarm]
    have same : r.notify.debounce.delay = (delayAfter delay steps).toNat := by
      simp [r, notify, Debounce.notify, enabled, switched, delays]
    obtain ⟨silent, single, enabled, due, dueAt, soon⟩ :=
      run_burst (r := r.notify) single (enabled.trans switched) (Nat.add_zero _).symm notified
        (same ▸ bursts)
    have once := run_quiet single enabled dueAt quiets filled (by omega)
    have cut : r.run (.notify :: burst ++ quiet) = r.notify.run burst >>= run quiet :=
      run_append burst quiet r.notify
    rw [cut, Logged.bind_events, silent, once]
    rfl

/-- A change that is made while the action is switched off neither counts nor restarts the
alarm. A burst with gaps of less than the delay that was set before it ends in one action. -/
theorem done_after_quiet_burst :
    let steps : List Step :=
      [.setDelay 100, .notify, .advance 30, .enable false, .notify, .enable true]
    let burst : List Step := [.advance 60, .notify, .advance 40, .advance 59, .notify]
    let quiet : List Step := [.advance 40, .advance 60]
    let r := ((idle 500 true).run steps).value
    Awaits 500 true steps 100 ∧ (r.step (.advance 70)).events = [100] ∧
      (r.step .cancel).events = [] ∧
      (r.run (.notify :: burst ++ quiet)).events.length = 1 := by
  intro steps burst quiet r
  obtain ⟨timed, -, -, -, -, untimed, -, bursts⟩ := done_after_quiet 500 true steps
  have rings : (r.step (.advance 70)).events = [100] := by decide +kernel
  have once := bursts burst quiet (by decide) ⟨by decide, by decide, by decide, trivial⟩
    (by simp [Quiet, quiet]) (by simp [quiet]) (by decide)
  exact ⟨((timed 70 100).mp rings).2.2, rings, untimed .cancel nofun nofun, once⟩

end LiveLint.DebounceRun
