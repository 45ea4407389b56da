import LiveLint.Proofs.Session.Effects
import LiveLint.Proofs.Tooltip.Stage

/-! # The views of what a session shows

The findings of a session are seen in several places: as marks of the session and of its
editor, in the gutter, and through the provider of marks. As long as there is an editor they
all say the same. -/

namespace LiveLint

theorem Finding.one_le_normalize_line (a : Finding) : 1 ≤ a.normalize.line := Int.le_max_left _ _

theorem Completion.toShow?_lines {c : Completion} {xs : List Finding} (h : c.toShow? = some xs) :
    ∀ a ∈ xs, 1 ≤ a.line := by
  intro a ha
  have normal : ∃ b : Finding, b.normalize = a := by
    cases c with
    | success items =>
      obtain rfl := Option.some.inj h
      obtain ⟨b, -, e⟩ := List.mem_map.mp ha
      exact ⟨b, e⟩
    | failure e =>
      obtain ⟨b, -, rfl⟩ := Option.map_eq_some_iff.mp h
      exact ⟨b, (List.mem_singleton.mp ha).symm⟩
    | listless | stray _ | raised _ | cancelled => cases h
  obtain ⟨b, rfl⟩ := normal
  exact b.one_le_normalize_line

namespace Session

variable {P : Type}

/-! ## The calls to the editor -/

/-- The calls that an editor gets with events. -/
def calls (log : List (Event P)) : List SurfaceCall :=
  log.filterMap fun
    | .stage e => e.call?
    | _ => none

@[simp] theorem calls_append (log more : List (Event P)) :
    calls (log ++ more) = calls log ++ calls more := List.filterMap_append

/-- What is seen of a stage includes all calls. -/
@[simp] theorem setStage_calls (s : Session P) (x : Logged (Stage.Event P) (Stage P)) :
    calls (s.setStage x).events = x.events.filterMap Stage.Event.call? := by
  have seen : ∀ e : Stage.Event P, visible s.view e = false → e.call? = none := by
    intro e hidden
    cases e with
    | hover e => rfl
    | add _ _ | remove _ _ | gutter _ _ _ | clearGutter | summary _ _ => cases hidden
  rw [calls, setStage, List.filterMap_map, List.filterMap_filter]
  refine List.filterMap_congr fun e _ => ?_
  cases shown : visible s.view e with
  | true => rfl
  | false => exact (seen e shown).symm

@[simp] theorem setHover_calls (s : Session P) (x : Logged (HoverEvent P) (Hover P)) :
    calls (s.setHover x).events = [] := by
  rw [setHover, setStage_calls, Stage.setHover_calls]

@[simp] theorem trigger_calls (s : Session P) : calls s.trigger.events = [] := by
  unfold trigger
  split <;> rfl

@[simp] theorem display_calls (findings : List Finding) (s : Session P) :
    calls (s.display findings).events =
      (s.stage.render s.moment (group findings)).events.filterMap Stage.Event.call? := by
  simp only [display, Logged.bind_events, Logged.publish_events, Logged.pure_events, calls_append,
    setStage_calls]
  exact List.append_nil _

theorem calls_status {events : List (Event P)} (h : ∀ e ∈ events, ∃ text, e = .status text) :
    calls events = [] := by
  refine List.filterMap_eq_nil_iff.mpr fun e he => ?_
  obtain ⟨text, rfl⟩ := h e he
  rfl

theorem arriving_lines {s : Session P} {findings : List Finding}
    (h : s.arriving? = some findings) : ∀ a ∈ findings, 1 ≤ a.line := by
  unfold arriving? at h
  split at h
  · split at h
    · exact Completion.toShow?_lines h
    · cases h
  · cases h

/-! ## What moves keep -/

/-- What a session shows, and what that depends on. -/
def outside (s : Session P) : Stage P × List Finding × Host × Bool × Bool :=
  (s.stage, s.findings, s.host, s.attached, s.disposed)

/-- The editor of a session was `start` before the calls in `log`; as long as it is there, it
shows the findings of the session. -/
structure Viewed (gutter : Bool) (start : Editor) (log : List (Event P)) (s : Session P) :
    Prop where
  signals : s.host.signals = true
  attached : s.host.alive = true → s.disposed = false → s.attached = true
  gutter : s.stage.renderer.gutter = gutter
  lines : ∀ a ∈ s.findings, 1 ≤ a.line
  shows : s.host.alive = true →
    s.stage.Shows (calls log) (start.performAll (calls log)) (group s.findings)

namespace Viewed

variable {gutter : Bool} {start : Editor} {log : List (Event P)} {s : Session P}

theorem congr (h : Viewed gutter start log s) {t : Session P} (same : t.outside = s.outside) :
    Viewed gutter start log t := by
  obtain ⟨stage, findings, host, attached, disposed⟩ :
      t.stage = s.stage ∧ t.findings = s.findings ∧ t.host = s.host ∧
        t.attached = s.attached ∧ t.disposed = s.disposed := by
    simpa [outside] using same
  constructor
  · exact host ▸ h.signals
  · rw [host, disposed, attached]
    exact h.attached
  · exact stage ▸ h.gutter
  · exact findings ▸ h.lines
  · rw [host, stage, findings]
    exact h.shows

/-- Events that are no calls change nothing. -/
theorem quiet (h : Viewed gutter start log s) {events : List (Event P)} (none : calls events = []) :
    Viewed gutter start (log ++ events) s where
  signals := h.signals
  attached := h.attached
  gutter := h.gutter
  lines := h.lines
  shows := by
    rw [calls_append, none, List.append_nil]
    exact h.shows

theorem trigger (h : Viewed gutter start log s) :
    Viewed gutter start (log ++ s.trigger.events) s.trigger.value := by
  obtain ⟨requests, e⟩ := s.trigger_value
  rw [e]
  exact (h.quiet s.trigger_calls).congr rfl

theorem setHover (h : Viewed gutter start log s) {x : Logged (HoverEvent P) (Hover P)}
    (e : x.value.marks.bare = s.stage.hover.marks.bare) :
    Viewed gutter start (log ++ (s.setHover x).events) (s.setHover x).value where
  signals := h.signals
  attached := h.attached
  gutter := h.gutter
  lines := h.lines
  shows live := by
    rw [calls_append, setHover_calls, List.append_nil]
    exact (h.shows live).setHover e

theorem clear (h : Viewed gutter start log s) (t : Moment) :
    let cleared := setStage { s with findings := [] } (s.stage.clear t)
    Viewed gutter start (log ++ cleared.events) cleared.value where
  signals := h.signals
  attached := h.attached
  gutter := (congrArg Renderer.gutter (s.stage.clear_renderer t)).trans h.gutter
  lines _ ha := absurd ha List.not_mem_nil
  shows live := by
    rw [calls_append, setStage_calls, Editor.performAll_append]
    exact (h.shows live).clear t

theorem display (h : Viewed gutter start log s) {findings : List Finding}
    (lines : ∀ a ∈ findings, 1 ≤ a.line) :
    Viewed gutter start (log ++ (s.display findings).events) (s.display findings).value where
  signals := h.signals
  attached := h.attached
  gutter := (congrArg Renderer.gutter (s.stage.render_renderer s.moment _)).trans h.gutter
  lines := lines
  shows live := by
    rw [calls_append, display_calls, Editor.performAll_append]
    exact (h.shows live).render s.moment (group findings)

theorem switchOff (h : Viewed gutter start log s) :
    Viewed gutter start (log ++ s.switchOff.events) s.switchOff.value := by
  let off : Session P := { s with
    switchedOn := false
    debounce := s.debounce.cancel
    requests := s.requests.invalidate }
  have left := (h.congr (t := off) rfl).setHover (Hover.dispose_marks off.moment true _)
  show Viewed gutter start (log ++ (_ ++ (_ ++ _))) _
  rw [← List.append_assoc, ← List.append_assoc]
  exact (left.clear _).quiet rfl

theorem detach (h : Viewed gutter start log s) :
    let detached := Session.detach { s with findings := [] }
    Viewed gutter start (log ++ detached.events) detached.value := by
  have cleared := (h.congr (t := { s with listening := false }) rfl).clear s.moment
  unfold Session.detach
  simp only [Logged.bind_events, Logged.bind_value, ← List.append_assoc]
  split <;> exact cleared.quiet rfl

/-- When the editor is gone, nothing is claimed of what it shows. -/
theorem gone (h : Viewed gutter start log s) {t : Session P} (signals : t.host.signals = true)
    (dead : t.host.alive = false) (settings : t.stage.renderer.gutter = s.stage.renderer.gutter)
    (findings : ∀ a ∈ t.findings, a ∈ s.findings) : Viewed gutter start log t where
  signals := signals
  attached live := by rw [dead] at live; cases live
  gutter := settings.trans h.gutter
  lines a ha := h.lines a (findings a ha)
  shows live := by rw [dead] at live; cases live

theorem takeDown (h : Viewed gutter start log s) (undisposed : s.disposed = false) :
    Viewed gutter start (log ++ s.takeDown.events) s.takeDown.value := by
  have closed : Viewed gutter start log s.closed := {
    signals := h.signals
    attached := fun _ ended => by cases ended
    gutter := h.gutter
    lines := h.lines
    shows := h.shows }
  have left := closed.setHover (Hover.dispose_marks s.closed.moment s.viewAlive s.stage.hover)
  unfold Session.takeDown
  simp only [Logged.bind_events, Logged.bind_value, ← List.append_assoc]
  split
  · exact left.detach
  next kept =>
    have dead : s.host.alive = false := by
      cases live : s.host.alive with
      | false => rfl
      | true => simp [h.attached live undisposed, live] at kept
    exact (left.quiet rfl).gone h.signals dead rfl fun _ ha => absurd ha List.not_mem_nil

theorem dispose (h : Viewed gutter start log s) :
    Viewed gutter start (log ++ s.dispose.events) s.dispose.value := by
  unfold Session.dispose
  split
  next => exact h.quiet rfl
  next undisposed => exact h.takeDown (Bool.not_eq_true _ ▸ undisposed)

/-- **Every move keeps the views of a session in agreement.** -/
theorem move (h : Viewed gutter start log s) (m : Move P) :
    Viewed gutter start (log ++ (s.move m).events) (s.move m).value := by
  have dead : (!s.host.signals) = false := by rw [h.signals]; rfl
  cases m with
  | settle | pump _ | wait _ => exact (h.quiet rfl).congr rfl
  | tooltip label a =>
    exact (h.congr (t := { s with now := a.due }) rfl).setHover (Hover.ring_marks _ label _)
  | take =>
    obtain ⟨requests, ⟨findings, arrives, e⟩ | ⟨-, value, events⟩⟩ := s.take_cases
    · rw [Session.move, e]
      exact (h.congr (t := { s with requests := requests }) rfl).display (arriving_lines arrives)
    · rw [Session.move, value]
      exact (h.quiet (calls_status events)).congr rfl
  | quiet a =>
    simp only [Session.move, ring]
    split
    · exact Viewed.trigger (h.congr rfl)
    · exact (h.quiet rfl).congr rfl
  | step a single =>
    cases a with
    | advance ms => cases single
    | drain => cases single
    | notify | deleteView => exact (h.quiet rfl).congr rfl
    | lintNow => exact Viewed.trigger (h.congr rfl)
    | dispose => exact h.dispose
    | type text =>
      simp only [Session.move, step]
      split <;> exact (h.quiet rfl).congr rfl
    | flush =>
      simp only [Session.move, step, flush]
      split
      · exact Viewed.trigger (h.congr rfl)
      · exact (h.quiet rfl).congr rfl
    | enable on =>
      obtain ⟨-, e⟩ | ⟨-, -, -, e⟩ | ⟨-, -, -, e⟩ := s.setEnabled_cases on <;>
        rw [Session.move, step, e]
      · exact h.quiet rfl
      · exact Viewed.trigger (h.congr rfl)
      · exact h.switchOff
    | hover mark pos =>
      simp only [Session.move, step]
      split
      · exact h.setHover (Hover.move_marks _ mark pos _)
      · exact h.quiet rfl
    | complete number c =>
      simp only [Session.move, step]
      split <;> exact (h.quiet rfl).congr rfl
    | deleteEditor => exact (h.quiet rfl).gone h.signals dead rfl fun _ ha => ha
    | destroyEditor =>
      simp only [Session.move, step]
      split
      · exact Viewed.dispose (h.gone h.signals dead rfl fun _ ha => ha)
      · exact (h.quiet rfl).gone h.signals dead rfl fun _ ha => ha

end Viewed

end Session
end LiveLint
