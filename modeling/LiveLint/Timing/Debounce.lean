import LiveLint.Timing.Alarm
import LiveLint.Timing.Logged

/-! Debouncing: a burst of changes causes one action, once the changes have been quiet for
the delay. Changes do not count while the action is switched off, and neither does a
delay that ends then. -/

namespace LiveLint

structure Debounce where
  delay : Nat := 500
  alarm : Option Alarm := none
  deriving DecidableEq

namespace Debounce

def pending (d : Debounce) : Bool := d.alarm.isSome

/-- A new delay, which does not move an alarm that is set. -/
def setDelay (ms : Int) (d : Debounce) : Debounce := { d with delay := ms.toNat }

def notify (t : Moment) (enabled : Bool) (d : Debounce) : Debounce :=
  if enabled then { d with alarm := some (t.alarm d.delay) } else d

def cancel (d : Debounce) : Debounce := { d with alarm := none }

/-- Whether to act now instead of waiting for the alarm. -/
def flushes (enabled : Bool) (d : Debounce) : Bool := d.pending && enabled

end Debounce

/-- A debounced action on a clock. The action notes the time and may notify again. -/
structure DebounceRun where
  now : Nat := 0
  debounce : Debounce := {}
  enabled : Bool := true
  /-- How many more times the action notifies again. -/
  repeats : Nat := 0
  deriving DecidableEq

namespace DebounceRun

inductive Step where
  | notify
  | advance (ms : Nat)
  | cancel
  | flush
  | setDelay (ms : Int)
  | enable (on : Bool)
  deriving DecidableEq

def notify (r : DebounceRun) : DebounceRun :=
  { r with debounce := r.debounce.notify ⟨r.now, 0⟩ r.enabled }

/-- The action; the events are the times at which it is done. -/
def fire (r : DebounceRun) : Logged Nat DebounceRun := do
  Logged.publish r.now
  if r.repeats = 0 then pure r
  else pure { r with repeats := r.repeats - 1 }.notify

/-- The delay has ended; the alarm is no longer set while the action is done. -/
def ring (a : Alarm) (r : DebounceRun) : Logged Nat DebounceRun :=
  let r := { r with now := a.due, debounce := r.debounce.cancel }
  if r.enabled then r.fire else pure r

/-- Let time pass up to `limit`; the first argument bounds how often the alarm rings. -/
def runTo (limit : Nat) : Nat → DebounceRun → Logged Nat DebounceRun
  | 0, r => pure { r with now := limit }
  | rings + 1, r => match r.debounce.alarm with
    | some a =>
      if a.due ≤ limit then do runTo limit rings (← r.ring a)
      else pure { r with now := limit }
    | none => pure { r with now := limit }

def flush (r : DebounceRun) : Logged Nat DebounceRun :=
  let after := { r with debounce := r.debounce.cancel }
  if r.debounce.flushes r.enabled then after.fire else pure after

def step (s : Step) (r : DebounceRun) : Logged Nat DebounceRun :=
  match s with
  | .notify => pure r.notify
  | .advance ms => r.runTo (r.now + ms) (r.repeats + 1)
  | .cancel => pure { r with debounce := r.debounce.cancel }
  | .flush => r.flush
  | .setDelay ms => pure { r with debounce := r.debounce.setDelay ms }
  | .enable on => pure { r with enabled := on }

/-- The events of a whole run, with the state after it. -/
def run (steps : List Step) (r : DebounceRun) : Logged Nat DebounceRun :=
  steps.foldlM (fun r s => r.step s) r

end DebounceRun
end LiveLint
