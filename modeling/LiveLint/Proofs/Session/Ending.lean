import LiveLint.Proofs.Session.Outcomes
import LiveLint.Proofs.Session.Views

/-! # The end of a session

A session that has ended has no findings, and nothing is shown any more. What becomes of the
marks that were shown depends on the editor. An editor that is there is cleared, and all marks
are revoked. An editor that is gone is not touched, and then the marks are not touched either:
they stay listed, provided and alive. -/

namespace LiveLint

namespace Session

variable {P : Type}

/-! ## What moves keep -/

/-- A session that has not ended still has its editor and listens to it. -/
def Connected (s : Session P) : Prop :=
  s.disposed = false → s.attached = true ∧ s.listening = true

theorem Connected.move {s : Session P} (h : Connected s) (m : Move P) :
    Connected (s.move m).value := by
  intro undisposed
  obtain ended | same := s.move_wiring m
  · rw [ended] at undisposed
    cases undisposed
  · simp only [wiring, Wiring.mk.injEq] at same
    obtain ⟨-, attached, listening, disposed⟩ := same
    rw [attached, listening]
    exact h (disposed ▸ undisposed)

/-- What is on the stage is the rendering of some groups, and no findings are left at the end. -/
structure Sound (s : Session P) : Prop where
  connected : Connected s
  rendered : s.stage.Rendered
  left : s.disposed = true → s.findings = []

theorem Sound.move {s : Session P} (h : Sound s) (m : Move P) : Sound (s.move m).value where
  connected := h.connected.move m
  rendered := move_shown (I := fun x _ _ => x.Rendered)
    (fun _ _ _ _ marks shown => shown.setHover marks)
    (fun _ _ shown => ⟨shown, shown.clear⟩)
    (fun _ _ shown t next => shown.render t (group next))
    (fun _ _ shown t => shown.clear t) h.rendered m
  left := move_shown (I := fun _ findings disposed => disposed = true → findings = [])
    (fun _ _ _ _ _ empty => empty) (fun _ _ _ => ⟨fun _ => rfl, fun _ _ => rfl⟩)
    (fun _ _ _ _ _ ended => by cases ended) (fun _ _ _ _ _ => rfl) h.left m

theorem Sound.run {s : Session P} (h : Sound s) (steps : List (Step P)) :
    Sound (s.run steps).value :=
  run_invariant (I := fun _ t => Sound t) (fun _ _ m sound => sound.move m) steps [] h

theorem opened_sound (config : LintConfig) (lookup : Option ExampleLookup) (host : Host)
    (view : TooltipView) (source : Nat → Option Completion) (text : String) (pos : P) :
    Sound (opened config lookup host view source text pos).value := by
  rw [opened_value]
  exact {
    connected := fun _ => ⟨rfl, rfl⟩
    rendered := ⟨[], {}, [], Shows.blank rfl rfl rfl rfl⟩
    left := fun ended => by cases ended }

/-- A session that has ended, with the marks of `last`. -/
structure Ended (last s : Session P) : Prop where
  disposed : s.disposed = true
  renderer : s.stage.renderer = last.stage.renderer
  marks : s.stage.hover.marks.bare = last.stage.hover.marks.bare

theorem Ended.move {last s : Session P} (h : Ended last s) (m : Move P) :
    Ended last (s.move m).value := by
  obtain ⟨disposed, renderer, marks⟩ := move_shown (I := fun x _ disposed => disposed = true ∧
      x.renderer = last.stage.renderer ∧ x.hover.marks.bare = last.stage.hover.marks.bare)
    (fun _ _ _ _ same kept => ⟨kept.1, kept.2.1, same.trans kept.2.2⟩)
    -- nothing is displayed, cleared or taken down any more
    (fun _ _ kept => by cases kept.1) (fun _ _ kept => by cases kept.1)
    (fun _ _ kept => by cases kept.1) ⟨h.disposed, h.renderer, h.marks⟩ m
  exact ⟨disposed, renderer, marks⟩

theorem Ended.run {last s : Session P} (h : Ended last s) (steps : List (Step P)) :
    Ended last (s.run steps).value :=
  run_invariant (I := fun _ t => Ended last t) (fun _ _ m kept => kept.move m) steps [] h

/-! ## The two ends -/

/-- An editor that is there is cleared at the end. -/
theorem dispose_live {s : Session P} (h : Connected s) (live : s.disposed = false)
    (alive : s.host.alive = true) : s.dispose.value.stage.renderer.live = [] := by
  obtain ⟨attached, -⟩ := h live
  obtain ⟨t, e⟩ := s.emptied.detach_value
  rw [dispose, if_neg (by simp [live]), takeDown_value, if_pos (by simp [attached, alive]), e]
  exact (Stage.clear_blank t _).live

/-- Without an editor, the marks stay as they are at the end. -/
theorem takeDown_ended {s : Session P} (unattached : s.attached = false) :
    Ended s s.takeDown.value := by
  rw [takeDown_value, if_neg (by simp [unattached])]
  exact ⟨rfl, rfl, Hover.dispose_marks _ _ _⟩

theorem destroyEditor_ended {s : Session P} (h : Connected s) (live : s.disposed = false)
    (signals : s.host.signals = true) : Ended s (s.step .destroyEditor).value := by
  obtain ⟨-, listening⟩ := h live
  rw [step, if_pos (by simp [signals, listening]), editorDestroyed, dispose,
    if_neg (by simp [live])]
  obtain ⟨disposed, renderer, marks⟩ := takeDown_ended
    (s := { s with host := { s.host with alive := !s.host.signals }, attached := false }) rfl
  exact ⟨disposed, renderer, marks⟩

/-! ## The marks that are left -/

/-- Nothing is left of what a session has shown. -/
structure Released (s : Session P) : Prop where
  findings : s.findings = []
  listed : s.liveMarks = []
  provided : s.providedMarks = []
  revoked : ∀ m ∈ s.stage.hover.marks, m.alive = false

/-- The marks that are alive are those that are listed. -/
theorem Sound.mem_liveMarks {s : Session P} (h : Sound s) {m : Mark Watcher} :
    m ∈ s.liveMarks ↔ m ∈ s.stage.hover.marks ∧ m.alive = true := by
  constructor
  · intro listed
    obtain ⟨n, hn, found⟩ := List.mem_filterMap.mp listed
    exact ⟨List.mem_of_getElem? found, (h.rendered.alive_iff found).mpr hn⟩
  · rintro ⟨made, alive⟩
    obtain ⟨n, found⟩ := List.mem_iff_getElem?.mp made
    exact List.mem_filterMap.mpr ⟨n, (h.rendered.alive_iff found).mp alive, found⟩

/-- At the end everything is released if no marks are listed. -/
theorem Sound.released_iff {s : Session P} (h : Sound s) (ended : s.disposed = true) :
    Released s ↔ s.liveMarks = [] := by
  refine ⟨fun released => released.listed, fun empty => ?_⟩
  refine ⟨h.left ended, empty, by rw [providedMarks, empty]; rfl, fun m made => ?_⟩
  refine Bool.eq_false_iff.mpr fun alive => ?_
  have listed := h.mem_liveMarks.mpr ⟨made, alive⟩
  rw [empty] at listed
  cases listed

/-- The marks that are listed, apart from who listens to them. -/
theorem map_bare_liveMarks (s : Session P) :
    s.liveMarks.map Mark.bare = s.stage.renderer.live.filterMap (s.stage.hover.marks.bare[·]?) := by
  rw [liveMarks, List.map_filterMap]
  simp only [MarkTable.bare, List.getElem?_map]

theorem Ended.liveMarks {last s : Session P} (h : Ended last s) :
    s.liveMarks.map Mark.bare = last.liveMarks.map Mark.bare := by
  rw [map_bare_liveMarks, map_bare_liveMarks, h.renderer, h.marks]

theorem Ended.providedMarks {last s : Session P} (h : Ended last s) :
    s.providedMarks = last.providedMarks := by
  have read : ∀ t : Session P, t.providedMarks = (t.liveMarks.map Mark.bare).map .ofMark := by
    intro t
    rw [List.map_map]
    rfl
  rw [read, read, h.liveMarks]

/-- **What is left at the end depends on the editor.** After any run, a session that has ended
has no findings. If the session is disposed of while its editor is there, everything is released
from then on: no mark is listed or provided, and every mark ever made is revoked. If the editor
goes and says so, the session ends too, but the marks that were shown then stay listed, provided
and alive, so everything is released only if there were none. -/
theorem released_at_end (config : LintConfig) (lookup : Option ExampleLookup) (host : Host)
    (view : TooltipView) (source : Nat → Option Completion) (text : String) (pos : P)
    (before after : List (Step P)) :
    let s := ((opened config lookup host view source text pos).value.run before).value
    (s.disposed = true → s.findings = []) ∧
    (s.disposed = false → s.host.alive = true →
      let r := (s.run (.dispose :: after)).value
      r.disposed = true ∧ Released r) ∧
    (s.disposed = false → s.host.signals = true →
      let r := (s.run (.destroyEditor :: after)).value
      r.disposed = true ∧ (Released r ↔ s.liveMarks = []) ∧
        r.liveMarks.map Mark.bare = s.liveMarks.map Mark.bare ∧
        r.providedMarks = s.providedMarks ∧ ∀ m ∈ r.liveMarks, m.alive = true) := by
  intro s
  have sound : Sound s := (opened_sound config lookup host view source text pos).run before
  refine ⟨sound.left, fun live alive => ?_, fun live signals => ?_⟩
  · intro r
    have last : Ended s.dispose.value s.dispose.value := ⟨s.dispose_disposed, rfl, rfl⟩
    have ended : Ended s.dispose.value r := last.run after
    have later : Sound r := sound.run (.dispose :: after)
    refine ⟨ended.disposed, (later.released_iff ended.disposed).mpr ?_⟩
    rw [liveMarks, ended.renderer, dispose_live sound.connected live alive]
    rfl
  · intro r
    have ended : Ended s r := (destroyEditor_ended sound.connected live signals).run after
    have later : Sound r := sound.run (.destroyEditor :: after)
    refine ⟨ended.disposed, ?_, ended.liveMarks, ended.providedMarks, fun m listed => ?_⟩
    · rw [later.released_iff ended.disposed, ← List.map_eq_nil_iff, ended.liveMarks,
        List.map_eq_nil_iff]
    · exact (later.mem_liveMarks.mp listed).2

/-- A session that shows one finding ends in either way, and is asked to lint once more. -/
theorem released_at_end_of_one :
    let s : Session Unit := (opened {} none {} .plain (fun _ => none) "x" ()).value
    let found : Finding := ⟨⟨⟨1, 1⟩, ⟨1, 2⟩⟩, .error, "bad", "", "", ""⟩
    let t := (s.run [.lintNow, .complete 0 (.success [.finding found]), .drain]).value
    (t.disposed = false ∧ t.host.alive = true ∧ t.host.signals = true) ∧
    Released (t.run [.dispose, .lintNow]).value ∧
    (t.run [.destroyEditor, .lintNow]).value.providedMarks = t.providedMarks := by
  intro s found t
  obtain ⟨-, released, kept⟩ := released_at_end {} none {} .plain (fun _ => none) "x" ()
    [.lintNow, .complete 0 (.success [.finding found]), .drain] [.lintNow]
  obtain ⟨-, released⟩ := released rfl rfl
  obtain ⟨-, -, -, provided, -⟩ := kept rfl rfl
  exact ⟨⟨rfl, rfl, rfl⟩, released, provided⟩

/-- A mark that is shown when its editor goes outlives the session. -/
theorem mark_outlives_session :
    let s : Session Unit := (opened {} none {} .plain (fun _ => none) "x" ()).value
    let found : Finding := ⟨⟨⟨1, 1⟩, ⟨1, 2⟩⟩, .error, "bad", "", "", ""⟩
    let r := (s.run
      [.lintNow, .complete 0 (.success [.finding found]), .drain, .destroyEditor]).value
    r.disposed = true ∧ r.liveMarks.map (·.alive) = [true] ∧ ¬ Released r := by
  intro s found r
  have ended : r.disposed = true := by decide +kernel
  have alive : r.liveMarks.map (·.alive) = [true] := by decide +kernel
  refine ⟨ended, alive, fun released => ?_⟩
  rw [released.listed] at alive
  cases alive

end Session
end LiveLint
