import LiveLint.Session.Basic

/-! Sessions on a clock: everything that can happen to a session and its editor, step by
step. -/

namespace LiveLint.Session

variable {P : Type}

inductive Step (P : Type) where
  /-- The editor's text changes, and the editor says so if it can. -/
  | type (text : String)
  | notify
  | flush
  | advance (ms : Nat)
  | lintNow
  | drain
  | enable (on : Bool)
  | hover (mark : Option Nat) (pos : P)
  | complete (number : Nat) (c : Completion)
  | dispose
  /-- The editor goes, without a word or with one. -/
  | deleteEditor
  | destroyEditor
  | deleteView

/-- An alarm rings. -/
def ring (timer : Timer) (a : Alarm) (s : Session P) : Logged (Event P) (Session P) :=
  let s := { s with now := a.due }
  match timer with
  | .debounce =>
    let s := { s with debounce := s.debounce.cancel }
    if s.enabled then s.trigger else pure s
  | .pump => drain { s with requests := s.requests.rearm s.moment }
  | .hover label => s.setHover (s.stage.hover.ring s.moment label)

/-- Let time pass up to `limit`; the first argument bounds how often an alarm rings. -/
def runTo (limit : Nat) : Nat → Session P → Logged (Event P) (Session P)
  | 0, s => pure { s with now := limit }
  | rings + 1, s => match Alarm.due? limit s.timers with
    | some (timer, a) => do runTo limit rings (← s.ring timer a)
    | none => pure { s with now := limit }

/-- The pump rings at most once a millisecond, and each other alarm at most once. -/
def advance (ms : Nat) (s : Session P) : Logged (Event P) (Session P) :=
  s.runTo (s.now + ms) (ms + 4)

def step (action : Step P) (s : Session P) : Logged (Event P) (Session P) :=
  match action with
  | .type text =>
    let s := { s with text }
    pure (if s.host.signals && s.listening then s.notifyChanged else s)
  | .notify => pure s.notifyChanged
  | .flush => s.flush
  | .advance ms => s.advance ms
  | .lintNow => s.lintNow
  | .drain => s.drain
  | .enable on => s.setEnabled on
  | .hover mark pos => if s.host.signals && s.listening then s.hover mark pos else pure s
  | .complete number c => match s.requests.complete? number c with
    | some requests => pure { s with requests := requests }
    | none => pure s
  | .dispose => s.dispose
  | .deleteEditor => pure { s with host := { s.host with alive := !s.host.signals } }
  | .destroyEditor =>
    let s := { s with host := { s.host with alive := !s.host.signals } }
    if s.host.signals && s.listening then s.editorDestroyed else pure s
  | .deleteView => pure { s with viewAlive := false }

def run (steps : List (Step P)) (s : Session P) : Logged (Event P) (Session P) :=
  steps.foldlM (fun s a => s.step a) s

end LiveLint.Session
