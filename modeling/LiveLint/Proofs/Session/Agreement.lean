import LiveLint.Proofs.Session.Views

/-! # All views agree

After any run, the editor of a session, the session itself, the gutter and the provider of
marks are one picture of the findings of the session. -/

namespace LiveLint

namespace Session

variable {P : Type}

/-- The views of what a session shows, all of the same marks in the same order. `gutter` tells
whether markers were asked for. -/
structure Agreement (gutter : Bool) (log : List (Event P)) (editor : Editor) (s : Session P) :
    Prop where
  /-- The editor lists the marks that the session lists. -/
  listed : editor.marks.map (·.number) = s.stage.renderer.live
  live : s.stage.renderer.live.map (s.stage.hover.marks[·]?) = s.liveMarks.map some
  shown : editor.marks.map (fun m => (m.span, m.severity)) =
    s.liveMarks.map fun m => (some m.span, m.finding.severity.name)
  /-- The marks ever made are those that were handed to the editor, each of them once. -/
  handed : (calls log).filterMap SurfaceCall.handed? =
    (s.stage.hover.marks.map (·.finding)).zipIdx
  /-- A mark is alive as long as it is listed, and revoked afterwards. -/
  alive : ∀ n m, s.stage.hover.marks[n]? = some m → (m.alive = true ↔ n ∈ s.stage.renderer.live)
  findings : s.liveMarks.map (·.finding) = allFindings (group s.findings)
  spans : ∀ m ∈ s.liveMarks, m.span = m.finding.range.toSpan
  /-- One marker for each line on which a mark starts, and none without a gutter. -/
  markers : (editor.gutter.map (·.line)).Nodup
  markerLines : ∀ line, line ∈ editor.gutter.map (·.line) ↔
    gutter = true ∧ ∃ m ∈ s.liveMarks, m.span.startLine = line
  markerSeverity : ∀ g ∈ editor.gutter, ∃ severity : Severity, g.severity = severity.name ∧
    Severity.highest? ((s.liveMarks.filter (·.span.startLine == g.line)).map
      (·.finding.severity)) = some severity
  /-- The provider gives what the marks of the findings would be. -/
  provided : s.providedMarks = (allFindings (group s.findings)).map fun a =>
    .ofMark (.ofFinding s.stage.renderer.lookup a : Mark Watcher)

section

variable {log : List SurfaceCall} {editor : Editor} {s : Session P}

theorem liveMarks_bare (h : s.stage.Shows log editor (group s.findings)) :
    s.liveMarks.map Mark.bare =
      (allFindings (group s.findings)).map (.ofFinding s.stage.renderer.lookup) := by
  rw [← h.live_marks, liveMarks, List.map_filterMap]
  simp only [MarkTable.bare, List.getElem?_map]

/-- Every number that is listed names a mark. -/
theorem live_named (h : s.stage.Shows log editor (group s.findings)) :
    s.stage.renderer.live.map (s.stage.hover.marks[·]?) = s.liveMarks.map some := by
  have named : ∀ n ∈ s.stage.renderer.live, ∃ m, s.stage.hover.marks[n]? = some m := by
    intro n hn
    have inside := h.live_lt hn
    rw [MarkTable.bare, List.length_map] at inside
    exact ⟨_, List.getElem?_eq_getElem inside⟩
  unfold liveMarks
  generalize s.stage.renderer.live = live at named ⊢
  induction live with
  | nil => rfl
  | cons n rest ih =>
    obtain ⟨m, hm⟩ := named n List.mem_cons_self
    rw [List.map_cons, ih fun k hk => named k (List.mem_cons_of_mem n hk),
      List.filterMap_cons_some hm, hm, List.map_cons]

theorem alive_iff (h : s.stage.Shows log editor (group s.findings)) {n : Nat} {m : Mark Watcher}
    (hm : s.stage.hover.marks[n]? = some m) :
    m.alive = true ↔ n ∈ s.stage.renderer.live := by
  have found : s.stage.hover.marks.bare[n]? = some m.bare := by simp [MarkTable.bare, hm]
  rw [← m.bare_alive]
  exact LiveLint.Shows.alive_iff h found

end

/-- What is read off marks apart from who listens to them is read off the findings. -/
theorem map_of_bare {marks : List (Mark Watcher)} {xs : List Finding}
    {lookup : Option ExampleLookup} (h : marks.map Mark.bare = xs.map (.ofFinding lookup))
    {β : Type} (f : Mark Watcher → β) (bare : ∀ m, f m.bare = f m) :
    marks.map f = xs.map fun a => f (.ofFinding lookup a) := by
  have read := congrArg (List.map f) h
  simpa [Function.comp_def, bare] using read

/-- The gutter holds the markers of the groups. -/
theorem gutter_eq {log : List SurfaceCall} {editor : Editor} {s : Session P}
    (h : s.stage.Shows log editor (group s.findings)) (lines : ∀ a ∈ s.findings, 1 ≤ a.line) :
    editor.gutter =
      if s.stage.renderer.gutter then (group s.findings).map s.stage.renderer.marker else [] := by
  rw [h.gutter, Renderer.markers_group]
  split
  · rw [GutterMarker.foldl_put, List.nil_append]
    exact Renderer.marker_ascending _ lines
  · rfl

section

variable {xs : List Finding} {marks : List (Mark Watcher)} {r : Renderer}

/-- Marks start where there are markers. -/
theorem starts_iff (h : marks.map Mark.bare = (allFindings (group xs)).map (.ofFinding r.lookup))
    (line : Int) :
    (∃ m ∈ marks, m.span.startLine = line) ↔ line ∈ ((group xs).map r.marker).map (·.line) := by
  have starts := map_of_bare h (·.span.startLine) fun _ => rfl
  rw [← List.mem_map, starts, List.mem_map]
  constructor
  · rintro ⟨a, ha, rfl⟩
    obtain ⟨g, hg, ha⟩ := List.mem_flatMap.mp ha
    exact List.mem_map.mpr ⟨_, List.mem_map_of_mem hg, (r.marker_line hg ha).symm⟩
  · intro found
    obtain ⟨m, hm, rfl⟩ := List.mem_map.mp found
    obtain ⟨g, hg, rfl⟩ := List.mem_map.mp hm
    obtain ⟨a, ha⟩ := List.exists_mem_of_ne_nil _ ((group_grouped xs).findings_ne_nil hg)
    exact ⟨a, List.mem_flatMap.mpr ⟨g, hg, ha⟩, r.marker_line hg ha⟩

/-- The marks that start on the line of a marker are those of its group. -/
theorem severities_eq (h : marks.map Mark.bare = (allFindings (group xs)).map (.ofFinding r.lookup))
    (lines : ∀ a ∈ xs, 1 ≤ a.line) {g : LineGroup} (hg : g ∈ group xs) :
    (marks.filter (·.span.startLine == (r.marker g).line)).map (·.finding.severity) =
      g.findings.map (·.severity) := by
  have pairs := map_of_bare h (fun m => (m.span.startLine, m.finding.severity)) fun _ => rfl
  calc (marks.filter (·.span.startLine == (r.marker g).line)).map (·.finding.severity)
      = ((marks.map fun m => (m.span.startLine, m.finding.severity)).filter
          (·.1 == (r.marker g).line)).map (·.2) := by
        simp [List.filter_map, Function.comp_def]
    _ = ((allFindings (group xs)).filter
          (·.range.toSpan.startLine == (r.marker g).line)).map (·.severity) := by
        rw [pairs]
        simp [List.filter_map, Function.comp_def, Mark.ofFinding]
    _ = g.findings.map (·.severity) := by rw [r.filter_marker_line lines hg]

end

theorem Viewed.agreement {gutter : Bool} {start : Editor} {log : List (Event P)} {s : Session P}
    (h : Viewed gutter start log s) (alive : s.host.alive = true) :
    Agreement gutter log (start.performAll (calls log)) s := by
  have shows := h.shows alive
  obtain ⟨dead, -, -, live, marks⟩ := shows.newest
  have bare := liveMarks_bare shows
  have markers := gutter_eq shows h.lines
  rw [h.gutter] at markers
  exact {
    listed := by
      rw [marks, live, List.map_map]
      exact List.zipIdx_map_snd _ _
    live := live_named shows
    shown := by
      rw [marks, map_of_bare bare _ fun _ => rfl, List.map_map]
      exact (List.map_map (g := fun a : Finding => (some a.range.toSpan, a.severity.name))).symm.trans
        (congrArg _ (List.zipIdx_map_fst _ _))
    handed := by
      have handed := shows.handed
      simpa [MarkTable.bare, Function.comp_def] using handed
    alive := fun _ _ => alive_iff shows
    findings := by
      rw [map_of_bare bare _ fun _ => rfl]
      exact List.map_id _
    spans := fun m hm => by
      have : m.bare ∈ s.liveMarks.map Mark.bare := List.mem_map_of_mem hm
      rw [bare] at this
      obtain ⟨a, -, e⟩ := List.mem_map.mp this
      rw [← m.bare_span, ← m.bare_finding, ← e]
      rfl
    markers := by
      rw [markers]
      split
      · exact List.nodup_iff_pairwise_ne.mpr (List.pairwise_map.mpr
          ((Renderer.marker_ascending _ h.lines).imp fun before => Int.ne_of_lt before))
      · exact List.nodup_nil
    markerLines := fun line => by
      rw [starts_iff bare, markers]
      cases gutter <;> simp
    markerSeverity := fun m hm => by
      rw [markers] at hm
      split at hm
      · obtain ⟨g, hg, rfl⟩ := List.mem_map.mp hm
        refine ⟨g.highest, rfl, ?_⟩
        rw [severities_eq bare h.lines hg]
        exact (group_grouped s.findings).highest g hg
      · cases hm
    provided := map_of_bare bare ProvidedMark.ofMark fun _ => rfl }

theorem opened_viewed (config : LintConfig) (lookup : Option ExampleLookup) (view : TooltipView)
    (source : Nat → Option Completion) (text : String) (pos : P) (page : Page) (caret : Caret)
    (visual : VisualConfig) :
    let s := opened config lookup {} view source text pos
    Viewed config.gutter { page, caret, visual } s.events s.value := by
  have quiet : calls (opened config lookup {} view source text pos).events = [] := by
    cases view <;> rfl
  dsimp only
  rw [opened_value]
  exact {
    signals := rfl
    attached := fun _ _ => rfl
    gutter := rfl
    lines := fun _ ha => absurd ha List.not_mem_nil
    shows := fun _ => by
      rw [quiet]
      exact Shows.blank rfl rfl rfl rfl }

end Session
end LiveLint
