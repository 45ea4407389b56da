import LiveLint.Proofs.Session.Effects

/-! # No edit is lost

The text is read when a request is made, and the debounce may be cancelled for many reasons.
Once a session has been asked for results, and as long as it is enabled, the debounce is
pending or the last request was made with the text as it is. -/

namespace LiveLint.Session

variable {P : Type}

def Event.request? : Event P → Option String
  | .request text => some text
  | _ => none

/-- The text of the last request. -/
def lastRequest? (log : List (Event P)) : Option String := (log.filterMap Event.request?).getLast?

/-- Whether a step asks for results: an edit, a demand, and switching on do. -/
def asks (s : Session P) : Step P → Bool
  | .type _ | .lintNow => true
  | .enable on => on && !s.switchedOn && !s.disposed
  | _ => false

theorem lastRequest?_request (log : List (Event P)) (text : String) :
    lastRequest? (log ++ [.request text]) = some text := last?_concat rfl

theorem lastRequest?_append {log events : List (Event P)} (h : ∀ e ∈ events, e.request? = none) :
    lastRequest? (log ++ events) = lastRequest? log := last?_append h

/-! ## What is kept -/

/-- An enabled session waits for quiet, or has asked for the text as it is. -/
def Covered (log : List (Event P)) (s : Session P) : Prop :=
  s.enabled = true → s.debounce.pending = true ∨ lastRequest? log = some s.text

/-- A session that has not ended hears its editor. -/
def Wired (s : Session P) : Prop :=
  s.disposed = false → s.host.signals = true ∧ s.attached = true ∧ s.listening = true

theorem Wired.of_enabled {s : Session P} (w : Wired s) (h : s.enabled = true) :
    s.host.signals = true ∧ s.attached = true ∧ s.listening = true := by
  simp only [enabled, Bool.and_eq_true, Bool.not_eq_true'] at h
  exact w h.2

theorem Wired.move {s : Session P} (w : Wired s) (m : Move P) : Wired (s.move m).value := by
  intro undisposed
  obtain ended | same := s.move_wiring m
  · rw [ended] at undisposed
    cases undisposed
  · simp only [wiring, Wiring.mk.injEq] at same
    obtain ⟨signals, attached, listening, disposed⟩ := same
    rw [signals, attached, listening]
    exact w (disposed ▸ undisposed)

theorem Covered.of_not_enabled {log : List (Event P)} {s : Session P} (h : s.enabled = false) :
    Covered log s := fun on => by rw [h] at on; cases on

/-- What concerns neither the debounce nor the text, and makes no request, leaves a session
covered. -/
theorem Covered.frame {log events : List (Event P)} {s t : Session P} (h : Covered log s)
    (enabled : t.enabled = s.enabled) (debounce : t.debounce = s.debounce) (text : t.text = s.text)
    (quiet : ∀ e ∈ events, e.request? = none) : Covered (log ++ events) t := by
  intro on
  rw [debounce, text, lastRequest?_append quiet]
  exact h (enabled ▸ on)

theorem Covered.still {log : List (Event P)} {s t : Session P} (h : Covered log s)
    (enabled : t.enabled = s.enabled) (debounce : t.debounce = s.debounce)
    (text : t.text = s.text) : Covered (log ++ []) t :=
  h.frame enabled debounce text fun _ he => absurd he List.not_mem_nil

/-- A session that asks is covered by that. -/
theorem Covered.trigger (log : List (Event P)) {s : Session P} (w : Wired s) :
    Covered (log ++ s.trigger.events) s.trigger.value := by
  cases on : s.enabled with
  | true =>
    have asked : s.trigger = ⟨{ s with requests := s.requests.trigger s.moment },
        [.request s.text]⟩ := by
      rw [Session.trigger, on, (w.of_enabled on).2.1]
      rfl
    rw [asked]
    exact fun _ => .inr (lastRequest?_request _ _)
  | false =>
    have idle : s.trigger = pure s := by
      rw [Session.trigger, on]
      rfl
    rw [idle]
    exact .of_not_enabled on

/-- A session that hears of a change waits for quiet. -/
theorem Covered.notifyChanged (log : List (Event P)) (s : Session P) :
    Covered log s.notifyChanged := by
  intro on
  have was : s.enabled = true := on
  left
  simp [Session.notifyChanged, Debounce.notify, was, Debounce.pending]

theorem request?_setStage {s : Session P} {x : Logged (Stage.Event P) (Stage P)} :
    ∀ e ∈ (s.setStage x).events, e.request? = none := by
  intro e he
  obtain ⟨_, -, rfl⟩ := List.mem_map.mp he
  rfl

theorem request?_display (findings : List Finding) (s : Session P) :
    ∀ e ∈ (s.display findings).events, e.request? = none := by
  intro e he
  simp only [display, Logged.bind_events, Logged.publish_events, Logged.pure_events,
    List.append_nil] at he
  rcases List.mem_append.mp he with he | he
  · exact request?_setStage e he
  · rcases List.mem_append.mp he with he | he <;> obtain rfl := List.mem_singleton.mp he <;> rfl

theorem request?_take (s : Session P) : ∀ e ∈ s.take.events, e.request? = none := by
  obtain ⟨requests, ⟨findings, -, e⟩ | ⟨-, -, reports⟩⟩ := s.take_cases
  · rw [e]
    exact request?_display findings _
  · intro e he
    obtain ⟨text, rfl⟩ := reports e he
    rfl

/-- An edit is heard, and what is heard is waited for. -/
theorem Covered.type (log : List (Event P)) {s : Session P} (w : Wired s) (text : String) :
    Covered (log ++ (s.step (.type text)).events) (s.step (.type text)).value := by
  simp only [step, Logged.pure_events, Logged.pure_value, List.append_nil]
  split
  next => exact .notifyChanged log _
  next unheard =>
    refine .of_not_enabled (Bool.eq_false_iff.mpr fun on => unheard ?_)
    obtain ⟨signals, -, listening⟩ := w.of_enabled on
    simp [signals, listening]

/-- What asks covers. -/
theorem Covered.of_asks (log : List (Event P)) {s : Session P} (w : Wired s) {a : Step P}
    (h : s.asks a = true) : Covered (log ++ (s.step a).events) (s.step a).value := by
  cases a with
  | type text => exact .type log w text
  | lintNow => exact .trigger log w
  | enable on =>
    simp only [asks, Bool.and_eq_true, Bool.not_eq_true'] at h
    obtain ⟨⟨rfl, off⟩, live⟩ := h
    obtain ⟨ended | same, -⟩ | ⟨-, -, -, e⟩ | ⟨-, was, -, -⟩ := s.setEnabled_cases true
    · simp [live] at ended
    · simp [off] at same
    · rw [step, e]
      exact .trigger log w
    · simp [off] at was
  | _ => cases h

theorem Covered.move {log : List (Event P)} {s : Session P} (w : Wired s) (h : Covered log s)
    (m : Move P) : Covered (log ++ (s.move m).events) (s.move m).value := by
  cases m with
  | take =>
    obtain ⟨requests, findings, stage, e⟩ := s.take_value
    rw [Session.move, e]
    exact h.frame rfl rfl rfl s.request?_take
  | settle | pump _ | wait _ => exact h.still rfl rfl rfl
  | tooltip label a => exact h.frame rfl rfl rfl request?_setStage
  | quiet a =>
    simp only [Session.move, ring]
    split
    next => exact .trigger log w
    next off => exact .of_not_enabled (Bool.not_eq_true _ ▸ off)
  | step a single =>
    rw [Session.move]
    cases a with
    | advance ms => cases single
    | drain => cases single
    | type text => exact .type log w text
    | notify => simpa [step] using Covered.notifyChanged log s
    | lintNow => exact .trigger log w
    | flush =>
      simp only [step, flush]
      split
      next => exact .trigger log w
      next stays =>
        -- nothing was pending, so nothing is cancelled
        intro on
        have idle : s.debounce.pending = false := by
          have was : s.enabled = true := on
          simpa [Debounce.flushes, was] using stays
        have asked := (h on).resolve_left (by simp [idle])
        exact .inr (by simpa using asked)
    | enable on =>
      obtain ⟨-, e⟩ | ⟨-, -, -, e⟩ | ⟨-, -, -, e⟩ := s.setEnabled_cases on <;> rw [step, e]
      · exact h.still rfl rfl rfl
      · exact .trigger log w
      · exact .of_not_enabled rfl
    | hover mark pos =>
      simp only [step]
      split
      · exact h.frame rfl rfl rfl request?_setStage
      · exact h.still rfl rfl rfl
    | complete number c =>
      simp only [step]
      split <;> exact h.still rfl rfl rfl
    | deleteEditor | deleteView => exact h.still rfl rfl rfl
    | dispose => exact .of_not_enabled (by simp [step, enabled])
    | destroyEditor =>
      simp only [step]
      split
      · exact .of_not_enabled (by simp [enabled, editorDestroyed])
      · exact h.still rfl rfl rfl

/-! ## Runs -/

theorem single_of_asks {s : Session P} {a : Step P} (h : s.asks a = true) : a.single = true := by
  cases a <;> first | rfl | cases h

/-- **No edit is lost.** After any run in which something has asked for results, an enabled
session of an editor that tells of changes waits for quiet, or its last request was made with
the text that the editor has. -/
theorem pending_or_requested (config : LintConfig) (lookup : Option ExampleLookup) {host : Host}
    (told : host.signals = true) (view : TooltipView) (source : Nat → Option Completion)
    (text : String) (pos : P) (before after : List (Step P)) (a : Step P) :
    let s := (opened config lookup host view source text pos).value
    let r := s.run (before ++ a :: after)
    (s.run before).value.asks a = true → r.value.enabled = true →
      r.value.debounce.pending = true ∨ lastRequest? r.events = some r.value.text := by
  intro s r asked on
  have start : Wired s := by
    rw [show s = _ from opened_value ..]
    exact fun _ => ⟨told, rfl, rfl⟩
  have wired : Wired (s.run before).value :=
    run_invariant (I := fun _ s => Wired s) (fun _ _ m w => w.move m) before [] start
  have run : r = s.run before >>= fun t => t.step a >>= Session.run after := by
    rw [show r = _ from run_append ..]
    rfl
  have kept := run_invariant (I := fun log s => Wired s ∧ Covered log s)
    (fun _ _ m h => ⟨h.1.move m, h.2.move h.1 m⟩) after
    ((s.run before).events ++ ((s.run before).value.step a).events)
    ⟨wired.move (.step a (single_of_asks asked)), .of_asks _ wired asked⟩
  rw [run, Logged.bind_value, Logged.bind_value] at on ⊢
  rw [Logged.bind_events, Logged.bind_events, ← List.append_assoc]
  exact kept.2 on

/-- After an edit and enough quiet the text was asked for. -/
theorem pending_or_requested_after_edit :
    let s : Session Unit := (opened {} none {} .plain (fun _ => none) "" ()).value
    let r := s.run [.type "new", .advance 700]
    r.value.debounce.pending = false ∧ lastRequest? r.events = some "new" := by
  intro s r
  have covered := @pending_or_requested Unit {} none {} rfl .plain (fun _ => none) "" ()
    [] [.advance 700] (.type "new") rfl rfl
  exact ⟨by decide, covered.resolve_left (by decide)⟩

end LiveLint.Session
