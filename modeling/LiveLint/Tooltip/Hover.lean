import LiveLint.Mark.Mark
import LiveLint.Timing.Alarm
import LiveLint.Timing.Logged

/-! The tooltip of the mark under the pointer. The pointer has to rest on a mark before its
tooltip is shown; when it leaves, the tooltip fades, and until it is gone a return to the
same mark shows it at once. A mark that is revoked takes its tooltip with it. -/

namespace LiveLint

inductive HoverPhase where
  | idle
  /-- The pointer is on a mark whose tooltip is not shown yet. -/
  | tracking
  | showing
  deriving DecidableEq, Inhabited

def HoverPhase.name : HoverPhase → String
  | idle => "idle"
  | tracking => "tracking"
  | showing => "showing"

/-- What the tooltip is told, and the phases it goes through. `P` are positions. -/
inductive HoverEvent (P : Type) where
  | «show» (markup : String) (pos : P) (now : Nat)
  | move (pos : P)
  | fade (now : Nat)
  | hide (now : Nat)
  | phase (p : HoverPhase)

/-- The only listener of a mark is the hover that tracks or shows it. -/
inductive Watcher where
  | hover
  deriving DecidableEq

structure Hover (P : Type) where
  restDelay : Nat := 180
  fadeDelay : Nat := 150
  /-- All marks, of which some may be revoked. -/
  marks : MarkTable Watcher := []
  phase : HoverPhase := .idle
  mark : Option Nat := none
  /-- The mark whose tooltip is fading. -/
  fading : Option Nat := none
  pos : P
  restAlarm : Option Alarm := none
  fadeAlarm : Option Alarm := none

/-- The alarms of a hover. -/
inductive HoverAlarm where
  | rest
  | fade
  deriving DecidableEq

namespace Hover

variable {P : Type}

def alarms (h : Hover P) : List (HoverAlarm × Option Alarm) :=
  [(.rest, h.restAlarm), (.fade, h.fadeAlarm)]

def setPhase (p : HoverPhase) (h : Hover P) : Logged (HoverEvent P) (Hover P) :=
  if p = h.phase then pure h
  else do
    Logged.publish (.phase p)
    pure { h with phase := p }

/-- Listen to another mark, or to none. -/
def setMark (mark : Option Nat) (h : Hover P) : Hover P :=
  if mark = h.mark then h
  else
    let marks := match h.mark with
      | some n => h.marks.update n (·.remove .hover)
      | none => h.marks
    let marks := match mark with
      | some n => marks.update n fun m => (m.add .hover).1
      | none => marks
    { h with marks, mark }

/-- Show the tooltip of the mark under the pointer. -/
def reveal (t : Moment) (h : Hover P) : Logged (HoverEvent P) (Hover P) :=
  match h.mark.bind (h.marks[·]?) with
  | none => pure h
  | some m => do
    Logged.publish (.show m.markup h.pos t.now)
    { h with fadeAlarm := none, fading := none }.setPhase .showing

/-- The pointer has left the mark whose tooltip is shown. -/
def leave (t : Moment) (h : Hover P) : Logged (HoverEvent P) (Hover P) := do
  let h := { h with fading := h.mark }.setMark none
  Logged.publish (.fade t.now)
  { h with fadeAlarm := some (t.alarm h.fadeDelay) }.setPhase .idle

/-- The pointer has come to a mark, after any other was left. -/
def enter (t : Moment) (n : Nat) (h : Hover P) : Logged (HoverEvent P) (Hover P) :=
  if h.fading = some n then (h.setMark (some n)).reveal t
  else do
    let h ← (h.setMark (some n)).setPhase .tracking
    pure { h with restAlarm := some (t.alarm h.restDelay) }

/-- The pointer is at `pos`, over a mark or over none. A revoked mark counts as none. -/
def move (t : Moment) (mark : Option Nat) (pos : P) (h : Hover P) :
    Logged (HoverEvent P) (Hover P) := do
  let mark := mark.filter h.marks.isAlive
  let h := { h with pos }
  match h.phase with
  | .showing =>
    if mark = h.mark then
      Logged.publish (.move pos)
      pure h
    else
      let h ← h.leave t
      match mark with
      | some n => h.enter t.next n
      | none => pure h
  | .tracking =>
    if mark = h.mark then pure h
    else
      let h ← ({ h with restAlarm := none }.setMark none).setPhase .idle
      match mark with
      | some n => h.enter t n
      | none => pure h
  | .idle => match mark with
    | some n => h.enter t n
    | none => pure h

/-- The pointer has left the editor. -/
def left (t : Moment) (h : Hover P) : Logged (HoverEvent P) (Hover P) := h.move t none h.pos

/-- Back to the start; the view is not told if it is gone. -/
def dispose (t : Moment) (hideView : Bool) (h : Hover P) : Logged (HoverEvent P) (Hover P) := do
  let h := { h with restAlarm := none, fadeAlarm := none, fading := none }.setMark none
  if hideView then Logged.publish (.hide t.now)
  h.setPhase .idle

/-- The mark that is tracked or shown was revoked. -/
def markRevoked (t : Moment) (h : Hover P) : Logged (HoverEvent P) (Hover P) := do
  let showing := h.phase == .showing
  let h := { h with restAlarm := none, mark := none }
  if showing then
    Logged.publish (.hide t.now)
    { h with fadeAlarm := none }.setPhase .idle
  else h.setPhase .idle

/-- Revoke a mark; if the hover listens to it, it is called. -/
def revoke (t : Moment) (n : Nat) (h : Hover P) : Logged (HoverEvent P) (Hover P) :=
  match h.marks[n]? with
  | none => pure h
  | some m =>
    let (handle, called) := m.handle.revoke
    let h := { h with marks := h.marks.set n { m with handle } }
    called.foldlM (fun h _ => if h.mark = some n then h.markRevoked t else pure h) h

/-- The pointer has rested long enough. -/
def rested (t : Moment) (h : Hover P) : Logged (HoverEvent P) (Hover P) :=
  if h.phase = .tracking then
    match h.mark.filter h.marks.isAlive with
    | some _ => h.reveal t
    | none => (h.setMark none).setPhase .idle
  else pure h

/-- The tooltip has faded. -/
def faded (t : Moment) (h : Hover P) : Logged (HoverEvent P) (Hover P) := do
  Logged.publish (.hide t.now)
  pure { h with fading := none }

/-- An alarm rings, which is no longer set then. -/
def ring (t : Moment) (label : HoverAlarm) (h : Hover P) : Logged (HoverEvent P) (Hover P) :=
  match label with
  | .rest => { h with restAlarm := none }.rested t
  | .fade => { h with fadeAlarm := none }.faded t

end Hover
end LiveLint
