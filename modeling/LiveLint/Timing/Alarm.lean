/-! Alarms on a clock of milliseconds. Alarms that are due together ring in the order in
which they were set, so every alarm carries its turn. -/

namespace LiveLint

structure Alarm where
  due : Nat
  turn : Nat
  deriving DecidableEq

/-- The time, and the turn of the next alarm that is set. -/
structure Moment where
  now : Nat
  turn : Nat := 0
  deriving DecidableEq

namespace Moment

def alarm (t : Moment) (delay : Nat) : Alarm := ⟨t.now + delay, t.turn⟩

/-- The moment after an alarm was set. -/
def next (t : Moment) : Moment := { t with turn := t.turn + 1 }

end Moment

namespace Alarm

/-- Whether the first alarm rings before the second. -/
def before (a b : Alarm) : Bool := a.due < b.due || (a.due == b.due && a.turn < b.turn)

/-- The alarm that rings first, with its label. -/
def earliest? {ι : Type} : List (ι × Option Alarm) → Option (ι × Alarm)
  | [] => none
  | (_, none) :: rest => earliest? rest
  | (label, some a) :: rest => match earliest? rest with
    | some (other, b) => if b.before a then some (other, b) else some (label, a)
    | none => some (label, a)

/-- The alarm that rings first, if that is no later than `limit`. -/
def due? {ι : Type} (limit : Nat) (alarms : List (ι × Option Alarm)) : Option (ι × Alarm) :=
  (earliest? alarms).filter (·.2.due ≤ limit)

/-- A turn after those of all alarms that are set. -/
def nextTurn {ι : Type} : List (ι × Option Alarm) → Nat
  | [] => 0
  | (_, none) :: rest => nextTurn rest
  | (_, some a) :: rest => max (a.turn + 1) (nextTurn rest)

end Alarm
end LiveLint
