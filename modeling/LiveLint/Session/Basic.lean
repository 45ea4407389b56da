import LiveLint.Request.Requests
import LiveLint.Settings.LintConfig
import LiveLint.Timing.Debounce
import LiveLint.Tooltip.Stage

/-! The lint state of one editor. A session asks for lint results when the text has been
quiet for a while, shows the results of the newest request as marks, and lets a tooltip
hover over them. -/

namespace LiveLint

/-- What the editor of a session offers besides its text and its surface. -/
structure Host where
  /-- Whether it tells of changes, of the pointer and of its own end. -/
  signals : Bool := true
  alive : Bool := true
  deriving DecidableEq

/-- The view in which tooltips are shown. -/
inductive TooltipView where
  | none
  | plain
  /-- A view that is told how long to fade. -/
  | fading
  deriving DecidableEq

structure Session (P : Type) where
  now : Nat := 0
  host : Host := {}
  view : TooltipView := .plain
  viewAlive : Bool := true
  /-- The text of the editor. -/
  text : String := ""
  /-- Whether the session still has its editor, and still listens to it. -/
  attached : Bool := true
  listening : Bool := true
  switchedOn : Bool := true
  disposed : Bool := false
  findings : List Finding := []
  debounce : Debounce := {}
  requests : Requests := {}
  stage : Stage P

namespace Session

variable {P : Type}

inductive Event (P : Type) where
  | request (text : String)
  | stage (e : Stage.Event P)
  | findings (items : List Finding)
  | status (text : String)
  /-- The editor was told who provides its marks, or that nobody does any more. -/
  | provider (set : Bool)
  | fadeTime (ms : Int)

/-- The alarms of a session. -/
inductive Timer where
  | debounce
  | pump
  | hover (label : HoverAlarm)
  deriving DecidableEq

def timers (s : Session P) : List (Timer × Option Alarm) :=
  [(.debounce, s.debounce.alarm), (.pump, s.requests.pump),
    (.hover .rest, s.stage.hover.restAlarm), (.hover .fade, s.stage.hover.fadeAlarm)]

def moment (s : Session P) : Moment := ⟨s.now, Alarm.nextTurn s.timers⟩

/-- Whether anything is linted. -/
def enabled (s : Session P) : Bool := s.switchedOn && !s.disposed

/-- Whether the outside sees what happens on the stage; without a view no tooltip is seen. -/
def visible (view : TooltipView) : Stage.Event P → Bool
  | .hover (.phase _) => true
  | .hover _ => view != .none
  | _ => true

def setStage (s : Session P) (x : Logged (Stage.Event P) (Stage P)) :
    Logged (Event P) (Session P) :=
  ⟨{ s with stage := x.value }, (x.events.filter (visible s.view)).map .stage⟩

def setHover (s : Session P) (x : Logged (HoverEvent P) (Hover P)) :
    Logged (Event P) (Session P) :=
  s.setStage (s.stage.setHover x)

/-- A session that has shown nothing and asked for nothing. -/
def initial (config : LintConfig) (lookup : Option ExampleLookup) (host : Host)
    (view : TooltipView) (atOnce : Nat → Option Completion) (text : String) (pos : P) :
    Session P :=
  { host, view, text
    switchedOn := config.enabled
    debounce := ({} : Debounce).setDelay config.debounceMs
    requests := .ofPoll config.resultPollMs atOnce
    stage :=
      { renderer :=
          { gutter := config.gutter, lookup := if config.showExamples then lookup else none }
        hover :=
          { restDelay := config.hoverDelayMs.toNat, fadeDelay := config.tooltipFadeMs.toNat
            pos } } }

/-- A session as it is opened for an editor. -/
def opened (config : LintConfig) (lookup : Option ExampleLookup) (host : Host)
    (view : TooltipView) (atOnce : Nat → Option Completion) (text : String) (pos : P) :
    Logged (Event P) (Session P) := do
  if view = .fading then Logged.publish (.fadeTime config.tooltipFadeMs)
  if host.signals then Logged.publish (.provider true)
  pure (initial config lookup host view atOnce text pos)

/-- Ask for the results of the text as it is. -/
def trigger (s : Session P) : Logged (Event P) (Session P) :=
  if s.enabled && s.attached then do
    Logged.publish (.request s.text)
    pure { s with requests := s.requests.trigger s.moment }
  else pure s

def notifyChanged (s : Session P) : Session P :=
  { s with debounce := s.debounce.notify s.moment s.enabled }

/-- Ask at once. -/
def lintNow (s : Session P) : Logged (Event P) (Session P) :=
  trigger { s with debounce := s.debounce.cancel }

/-- Ask at once if the text has changed. -/
def flush (s : Session P) : Logged (Event P) (Session P) :=
  let after := { s with debounce := s.debounce.cancel }
  if s.debounce.flushes s.enabled then after.trigger else pure after

/-- Show findings in place of those that were shown. -/
def display (findings : List Finding) (s : Session P) : Logged (Event P) (Session P) := do
  let groups := group findings
  let s ← { s with findings }.setStage (s.stage.render s.moment groups)
  Logged.publish (.stage (Stage.summaryOf groups))
  Logged.publish (.findings findings)
  pure s

/-- Show the findings of a result; members that are none are left out. -/
def accept (items : List Item) (s : Session P) : Logged (Event P) (Session P) :=
  if s.enabled then s.display ((items.filterMap (·.finding?)).map (·.normalize)) else pure s

def deliver (delivery : Delivery) (s : Session P) : Logged (Event P) (Session P) :=
  match delivery with
  | .accepted _ items => s.accept items
  | .status text => do
    Logged.publish (.status text)
    pure s
  | .stale => pure s

/-- Take results until the queue is empty; the first argument bounds their number. -/
def takeAll : Nat → Session P → Logged (Event P) (Session P)
  | 0, s => pure s
  | count + 1, s => match s.requests.take? with
    | none => pure s
    | some (delivery, requests) => do
      takeAll count (← deliver delivery { s with requests })

/-- Empty the queue of results. -/
def drain (s : Session P) : Logged (Event P) (Session P) := do
  let s ← takeAll s.requests.queue.length s
  pure { s with requests := s.requests.settle }

/-- Switch linting off, and take away all that is shown. -/
def switchOff (s : Session P) : Logged (Event P) (Session P) := do
  let s := { s with
    switchedOn := false
    debounce := s.debounce.cancel
    requests := s.requests.invalidate }
  let s ← s.setHover (s.stage.hover.dispose s.moment true)
  let s ← { s with findings := [] }.setStage (s.stage.clear s.moment)
  Logged.publish (.findings [])
  Logged.publish (.status "Lint is disabled.")
  pure s

/-- Switch linting on or off; what is switched on asks at once. -/
def setEnabled (on : Bool) (s : Session P) : Logged (Event P) (Session P) :=
  if s.disposed || on = s.switchedOn then pure s
  else if on then lintNow { s with switchedOn := true }
  else s.switchOff

/-- The pointer is over a mark of the editor, or over none. -/
def hover (mark : Option Nat) (pos : P) (s : Session P) : Logged (Event P) (Session P) :=
  s.setHover (s.stage.hover.move s.moment mark pos)

/-- Leave the editor with nothing of the session in it. -/
def detach (s : Session P) : Logged (Event P) (Session P) := do
  let s ← { s with listening := false }.setStage (s.stage.clear s.moment)
  if s.host.signals then Logged.publish (.provider false)
  pure s

/-- Take the session down. An editor that is gone is not touched any more. -/
def takeDown (s : Session P) : Logged (Event P) (Session P) := do
  let attached := s.attached
  let s := { s with
    disposed := true
    attached := false
    debounce := s.debounce.cancel
    requests := s.requests.shutdown }
  let s ← s.setHover (s.stage.hover.dispose s.moment s.viewAlive)
  let s := { s with findings := [] }
  if attached && s.host.alive then s.detach else pure s

/-- End the session, unless it has ended. -/
def dispose (s : Session P) : Logged (Event P) (Session P) :=
  if s.disposed then pure s else s.takeDown

/-- The editor is gone and says so. -/
def editorDestroyed (s : Session P) : Logged (Event P) (Session P) :=
  dispose { s with attached := false }

/-- The marks that are shown, in order. -/
def liveMarks (s : Session P) : List (Mark Watcher) :=
  s.stage.renderer.live.filterMap (s.stage.hover.marks[·]?)

/-- The marks that are shown, as the editor asks for them. -/
def providedMarks (s : Session P) : List ProvidedMark := s.liveMarks.map .ofMark

end Session
end LiveLint
