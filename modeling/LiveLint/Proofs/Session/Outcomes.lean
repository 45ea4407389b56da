import LiveLint.Proofs.Request.Staleness
import LiveLint.Proofs.Session.Effects
import LiveLint.Proofs.Tooltip.Marks

/-! # What a move comes to

There are many moves, and most of them concern timers, results or the text only. Seen from
the marks and the findings a move comes to one of seven things. What is kept of the stage and
the findings therefore needs four arguments, not one for each move. -/

namespace LiveLint.Session

variable {P : Type}

/-- The session `t` shows what `s` does, it is not switched off or ended if `s` is not, and
without any request that `s` has not made. -/
structure Framed (s t : Session P) : Prop where
  stage : t.stage = s.stage
  findings : t.findings = s.findings
  disposed : t.disposed = s.disposed
  enabled : s.enabled = true → t.enabled = true
  requests : s.requests.Fewer t.requests

theorem Framed.refl (s : Session P) : Framed s s := ⟨rfl, rfl, rfl, id, .refl _⟩

/-- What a move can make of a session, with the events of it. Timers, the text and the editor
are left open. -/
inductive Outcome (s : Session P) : Logged (Event P) (Session P) → Prop where
  | still {t : Session P} (same : Framed s t) : Outcome s (pure t)
  | asked {t : Session P} (same : Framed s t) : Outcome s t.trigger
  /-- The tooltip changes, and with it nothing but who listens to marks. -/
  | hovered {t : Session P} (same : Framed s t) {x : Logged (HoverEvent P) (Hover P)}
    (marks : x.value.marks.bare = t.stage.hover.marks.bare) : Outcome s (t.setHover x)
  | displayed {t : Session P} (same : Framed s t) (on : s.enabled = true)
    (findings : List Finding) : Outcome s (t.display findings)
  | reported {x : Logged (Event P) (Session P)} (same : Framed s x.value)
    (reports : ∀ e ∈ x.events, ∃ text, e = .status text) : Outcome s x
  | switchedOff (live : s.disposed = false) : Outcome s s.switchOff
  /-- A session loses its editor before the end only if that is gone. -/
  | ended {t : Session P} (same : Framed s t) (live : s.disposed = false)
    (editor : t.host.alive = true → t.attached = s.attached) : Outcome s t.takeDown

theorem dispose_outcome {s t : Session P} (same : Framed s t)
    (editor : t.host.alive = true → t.attached = s.attached) : Outcome s t.dispose := by
  unfold dispose
  split
  next => exact .still same
  next live => exact .ended same (by simpa [same.disposed] using live) editor

theorem deliver_requests (delivery : Delivery) (s : Session P) :
    (s.deliver delivery).value.requests = s.requests := by
  cases delivery with
  | accepted generation items =>
    simp only [deliver, accept]
    split <;> rfl
  | status text | stale => rfl

theorem take_requests (s : Session P) : s.requests.Fewer s.take.value.requests := by
  unfold take
  split
  next => exact .refl _
  next delivery requests taken =>
    rw [deliver_requests]
    exact Requests.fewer_take taken

theorem move_outcome (m : Move P) (s : Session P) : Outcome s (s.move m) := by
  cases m with
  | settle => exact .still ⟨rfl, rfl, rfl, id, Requests.fewer_settle _⟩
  | pump _ => exact .still ⟨rfl, rfl, rfl, id, .of_eq rfl rfl (Nat.le_refl _)⟩
  | wait _ => exact .still ⟨rfl, rfl, rfl, id, .refl _⟩
  | tooltip label a =>
    have same : Framed s { s with now := a.due } := ⟨rfl, rfl, rfl, id, .refl _⟩
    exact .hovered same (Hover.ring_marks _ label _)
  | take =>
    have fewer := s.take_requests
    obtain ⟨requests, ⟨findings, arrives, e⟩ | ⟨-, value, reports⟩⟩ := s.take_cases
    · rw [e] at fewer
      rw [move, e]
      have same : Framed s { s with requests := requests } := ⟨rfl, rfl, rfl, id, fewer⟩
      exact .displayed same (enabled_of_arriving arrives) findings
    · rw [value] at fewer
      have same : Framed s s.take.value := by
        rw [value]
        exact ⟨rfl, rfl, rfl, id, fewer⟩
      exact .reported same reports
  | quiet a =>
    simp only [move, ring]
    split
    · exact .asked ⟨rfl, rfl, rfl, id, .refl _⟩
    · exact .still ⟨rfl, rfl, rfl, id, .refl _⟩
  | step a single =>
    rw [move]
    cases a with
    | advance ms => cases single
    | drain => cases single
    | notify | deleteView | deleteEditor => exact .still ⟨rfl, rfl, rfl, id, .refl _⟩
    | lintNow => exact .asked ⟨rfl, rfl, rfl, id, .refl _⟩
    | dispose => exact dispose_outcome (.refl s) fun _ => rfl
    | type text =>
      rw [step]
      dsimp only
      split <;> exact .still ⟨rfl, rfl, rfl, id, .refl _⟩
    | flush =>
      simp only [step, flush]
      split
      · exact .asked ⟨rfl, rfl, rfl, id, .refl _⟩
      · exact .still ⟨rfl, rfl, rfl, id, .refl _⟩
    | enable on =>
      obtain ⟨-, e⟩ | ⟨live, -, -, e⟩ | ⟨live, -, -, e⟩ := s.setEnabled_cases on <;> rw [step, e]
      · exact .still (.refl s)
      · exact .asked ⟨rfl, rfl, rfl, fun _ => by simp [enabled, live], .refl _⟩
      · exact .switchedOff live
    | hover mark pos =>
      simp only [step]
      split
      · exact .hovered (.refl s) (Hover.move_marks _ mark pos _)
      · exact .still (.refl s)
    | complete number c =>
      simp only [step]
      split
      next completed => exact .still ⟨rfl, rfl, rfl, id, Requests.fewer_complete completed⟩
      next => exact .still (.refl s)
    | destroyEditor =>
      simp only [step]
      split
      next told =>
        have signals : s.host.signals = true := (Bool.and_eq_true_iff.mp told).1
        exact dispose_outcome ⟨rfl, rfl, rfl, id, .refl _⟩ fun alive => by simp [signals] at alive
      next => exact .still ⟨rfl, rfl, rfl, id, .refl _⟩

/-! ## Asking -/

theorem trigger_requests (s : Session P) : s.trigger.value.requests = s.requests ∨
    ∃ t, s.trigger.value.requests = s.requests.trigger t := by
  unfold trigger
  split
  · exact .inr ⟨_, rfl⟩
  · exact .inl rfl

theorem trigger_enabled (s : Session P) : s.trigger.value.enabled = s.enabled := by
  obtain ⟨requests, e⟩ := s.trigger_value
  rw [e]
  rfl

/-! ## Invariants of what is shown -/

section

variable {I : Stage P → List Finding → Bool → Prop}
  (hovered : ∀ x findings disposed (hover : Hover P), hover.marks.bare = x.hover.marks.bare →
    I x findings disposed → I { x with hover := hover } findings disposed)
  (ended : ∀ x findings, I x findings false → I x [] true ∧ ∀ t, I (x.clear t).value [] true)

include hovered ended in
theorem takeDown_shown {s : Session P} (h : I s.stage s.findings false) :
    I s.takeDown.value.stage s.takeDown.value.findings s.takeDown.value.disposed := by
  have left : I s.emptied.stage [] true ∧ ∀ t, I (s.emptied.stage.clear t).value [] true :=
    ended _ _ (hovered _ _ _ _ (s.stage.hover.dispose_marks s.closed.moment s.viewAlive) h)
  rw [takeDown_value]
  split
  · obtain ⟨t, e⟩ := s.emptied.detach_value
    rw [e]
    exact left.2 t
  · exact left.1

include hovered ended in
/-- What the tooltip, a rendering, a clearing and the end of a session keep is kept by every
move. -/
theorem move_shown
    (displayed : ∀ x findings, I x findings false → ∀ t next,
      I (x.render t (group next)).value next false)
    (cleared : ∀ x findings, I x findings false → ∀ t, I (x.clear t).value [] false)
    {s : Session P} (h : I s.stage s.findings s.disposed) (m : Move P) :
    I (s.move m).value.stage (s.move m).value.findings (s.move m).value.disposed := by
  have framed : ∀ {t : Session P}, Framed s t → I t.stage t.findings t.disposed := by
    intro t same
    rwa [same.stage, same.findings, same.disposed]
  have outcome := move_outcome m s
  generalize s.move m = x at outcome
  cases outcome with
  | still same => exact framed same
  | @asked t same =>
    have asking : I t.stage t.findings t.disposed := framed same
    obtain ⟨requests, e⟩ := t.trigger_value
    rw [e]
    exact asking
  | hovered same marks => exact hovered _ _ _ _ marks (framed same)
  | @displayed t same on findings =>
    have live : t.disposed = false := by
      simpa using (Bool.and_eq_true_iff.mp (same.enabled on)).2
    show I (t.stage.render t.moment (group findings)).value findings t.disposed
    rw [live]
    exact displayed _ _ (live ▸ framed same) _ findings
  | reported same _ => exact framed same
  | switchedOff live =>
    obtain ⟨t, u, e⟩ := s.switchOff_value
    have left := hovered _ _ _ _ (s.stage.hover.dispose_marks t true) h
    rw [live] at left
    rw [e]
    show I _ [] s.disposed
    rw [live]
    exact cleared _ _ left u
  | ended same live _ =>
    rw [← same.disposed] at live
    exact takeDown_shown hovered ended (live ▸ framed same)

end

end LiveLint.Session
