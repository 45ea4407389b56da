import LiveLint.Proofs.Editor.Calls
import LiveLint.Tooltip.Stage

/-! # What a stage shows

The renderer keeps the numbers of its marks, the table keeps all marks ever made, and the
editor keeps what it was told. After each rendering and each clearing they agree on the groups
that are shown, and the tooltip changes nothing about that. -/

namespace LiveLint

/-- An editor, the table of marks apart from who listens to them, and a renderer show `groups`,
when `log` are all the calls the editor has got. -/
structure Shows (log : List SurfaceCall) (editor : Editor) (table : List (Mark Watcher))
    (r : Renderer) (groups : List LineGroup) : Prop where
  added : editor.added = table.length
  handed : log.filterMap SurfaceCall.handed? = (table.map (·.finding)).zipIdx
  /-- The marks that are shown are the newest, and all older ones are revoked. -/
  newest : ∃ dead : List (Mark Watcher), (∀ m ∈ dead, m.alive = false) ∧
    table = dead ++ (allFindings groups).map (Mark.ofFinding r.lookup) ∧
    r.live = List.range' dead.length (allFindings groups).length ∧
    editor.marks = ((allFindings groups).zipIdx dead.length).map fun p => .ofFinding p.1 p.2
  gutter : editor.gutter = (r.markers groups).foldl (fun set m => m.put set) []
  inGutter : r.inGutter = false → editor.gutter = []

theorem filterMap_getElem?_range' {α : Type} {l : List α} {k n : Nat} (h : l.length = k + n) :
    (List.range' k n).filterMap (l[·]?) = l.drop k := by
  induction n generalizing k with
  | zero => exact (List.drop_eq_nil_of_le (Nat.le_of_eq h)).symm
  | succ n ih =>
    have inside : k < l.length := by omega
    rw [List.range'_succ, List.filterMap_cons_some (List.getElem?_eq_getElem inside),
      ih (by omega), ← List.drop_eq_getElem_cons inside]

namespace Renderer

theorem markers_eq_nil {r : Renderer} {groups : List LineGroup}
    (h : (r.gutter && groups.any fun g => !g.findings.isEmpty) = false) :
    r.markers groups = [] := by
  refine List.flatMap_eq_nil_iff.mpr fun g hg => if_neg fun shown => ?_
  obtain ⟨on, filled⟩ := Bool.and_eq_true_iff.mp shown
  rw [on, Bool.true_and] at h
  exact List.any_eq_false.mp h g hg filled

end Renderer

namespace Shows

variable {log : List SurfaceCall} {editor : Editor} {table : List (Mark Watcher)} {r : Renderer}
  {groups : List LineGroup}

/-- Nothing is shown in the beginning. -/
theorem blank {editor : Editor} {r : Renderer} (added : editor.added = 0)
    (marks : editor.marks = []) (gutter : editor.gutter = []) (live : r.live = []) :
    Shows [] editor [] r [] where
  added := added
  handed := rfl
  newest := ⟨[], fun _ h => absurd h List.not_mem_nil, rfl, live, marks⟩
  gutter := gutter
  inGutter _ := gutter

/-- Clearing leaves nothing in the editor. -/
theorem clear_editor (h : Shows log editor table r groups) :
    editor.performAll r.clear.1 = { editor with marks := [], gutter := [] } := by
  obtain ⟨dead, -, -, live, marks⟩ := h.newest
  have none_left : editor.marks.filter (·.number ∉ r.live) = [] := by
    refine List.filter_eq_nil_iff.mpr fun m hm => ?_
    rw [marks] at hm
    obtain ⟨p, hp, rfl⟩ := List.mem_map.mp hm
    have := List.mem_zipIdx hp
    rw [live, decide_eq_true_eq, Decidable.not_not, List.mem_range'_1]
    exact ⟨this.1, this.2.1⟩
  rw [Renderer.clear, Editor.performAll_append, Editor.performAll_remove, none_left]
  cases shown : r.inGutter with
  | true => rfl
  | false => simp [Editor.performAll, h.inGutter shown]

theorem clear (h : Shows log editor table r groups) :
    Shows (log ++ r.clear.1) (editor.performAll r.clear.1)
      (MarkTable.performAll r.lookup r.clear.1 table) r.clear.2 [] := by
  obtain ⟨dead, revoked, htable, live, -⟩ := h.newest
  have cleared : MarkTable.performAll r.lookup r.clear.1 table =
      dead ++ ((allFindings groups).map (Mark.ofFinding r.lookup)).map Mark.revoked := by
    have removed := MarkTable.performAll_remove r.lookup dead
      ((allFindings groups).map (Mark.ofFinding r.lookup))
    rw [List.length_map, ← live, ← htable] at removed
    rw [Renderer.clear, MarkTable.performAll_append, removed]
    split <;> rfl
  have all_revoked : ∀ m ∈ dead ++ ((allFindings groups).map (Mark.ofFinding r.lookup)).map
      Mark.revoked, m.alive = false := by
    intro m hm
    rcases List.mem_append.mp hm with old | new
    · exact revoked m old
    · obtain ⟨m', -, rfl⟩ := List.mem_map.mp new
      rfl
  rw [h.clear_editor, cleared]
  exact {
    added := by simp [h.added, htable]
    handed := by
      rw [List.filterMap_append, r.clear_handed, List.append_nil, h.handed, htable]
      simp [Function.comp_def]
    newest := ⟨_, all_revoked, (List.append_nil _).symm, rfl, rfl⟩
    gutter := rfl
    inGutter := fun _ => rfl }

theorem addGroups (h : Shows log editor table r []) (groups : List LineGroup) :
    let calls := r.addGroups table.length groups
    Shows (log ++ calls) (editor.performAll calls) (MarkTable.performAll r.lookup calls table)
      { r with
        live := (List.range (allFindings groups).length).map (table.length + ·)
        inGutter := r.gutter && groups.any fun g => !g.findings.isEmpty } groups := by
  intro calls
  obtain ⟨dead, revoked, htable, -, marks⟩ := h.newest
  simp only [allFindings_nil, List.map_nil, List.append_nil, List.zipIdx_nil] at htable marks
  subst htable
  rw [Editor.performAll_addGroups, MarkTable.performAll_addGroups, h.added, marks, h.gutter]
  exact {
    added := by simp
    handed := by
      rw [List.filterMap_append, r.addGroups_handed, h.handed]
      simp [List.zipIdx_append, Function.comp_def]
    newest := ⟨table, revoked, rfl, List.range'_eq_map_range.symm, by simp⟩
    gutter := rfl
    inGutter := fun off => by rw [Renderer.markers_eq_nil off]; rfl }

theorem render (h : Shows log editor table r groups) (next : List LineGroup) :
    let calls := (r.render table.length next).1
    Shows (log ++ calls) (editor.performAll calls) (MarkTable.performAll r.lookup calls table)
      (r.render table.length next).2 next := by
  have size : (MarkTable.performAll r.lookup r.clear.1 table).length = table.length := by
    rw [← h.clear.added, h.clear_editor]
    exact h.added
  have added := h.clear.addGroups next
  rw [size] at added
  have same : r.clear.2.lookup = r.lookup := rfl
  simpa only [Renderer.render, same, Editor.performAll_append, MarkTable.performAll_append,
    List.append_assoc] using added

end Shows

/-! ## What is listed -/

namespace Shows

variable {log : List SurfaceCall} {editor : Editor} {table : List (Mark Watcher)} {r : Renderer}
  {groups : List LineGroup}

/-- The marks that are listed are those of the findings. -/
theorem live_marks (h : Shows log editor table r groups) :
    r.live.filterMap (table[·]?) = (allFindings groups).map (Mark.ofFinding r.lookup) := by
  obtain ⟨dead, -, htable, live, -⟩ := h.newest
  rw [live, filterMap_getElem?_range' (by simp [htable]), htable, List.drop_left]

theorem live_lt (h : Shows log editor table r groups) {n : Nat} (hn : n ∈ r.live) :
    n < table.length := by
  obtain ⟨dead, -, htable, live, -⟩ := h.newest
  rw [live, List.mem_range'_1] at hn
  simpa [htable] using hn.2

/-- A mark is alive as long as it is listed. -/
theorem alive_iff (h : Shows log editor table r groups) {n : Nat} {m : Mark Watcher}
    (hm : table[n]? = some m) : m.alive = true ↔ n ∈ r.live := by
  obtain ⟨dead, revoked, htable, live, -⟩ := h.newest
  have inside := (List.getElem?_eq_some_iff.mp hm).1
  rw [htable, List.length_append, List.length_map] at inside
  rw [htable] at hm
  rw [live, List.mem_range'_1]
  by_cases old : n < dead.length
  · rw [List.getElem?_append_left old] at hm
    have off := revoked m (List.mem_of_getElem? hm)
    exact iff_of_false (Bool.eq_false_iff.mp off) (by omega)
  · rw [List.getElem?_append_right (by omega)] at hm
    obtain ⟨a, -, rfl⟩ := List.mem_map.mp (List.mem_of_getElem? hm)
    exact iff_of_true rfl ⟨by omega, inside⟩

end Shows

/-! ## The stage carries out the calls -/

namespace Stage

variable {P : Type}

/-- The call that the surface gets with an event, if any. -/
def Event.call? : Event P → Option SurfaceCall
  | .add number a => some (.add number a)
  | .remove number _ => some (.remove number)
  | .gutter line severity markup => some (.setGutter line severity markup)
  | .clearGutter => some .clearGutter
  | .summary _ _ | .hover _ => none

theorem setHover_calls (s : Stage P) (x : Logged (HoverEvent P) (Hover P)) :
    (s.setHover x).events.filterMap Event.call? = [] := by
  simp [setHover, Event.call?]

theorem perform_calls (t : Moment) (s : Stage P) (call : SurfaceCall) :
    (s.perform t call).events.filterMap Event.call? = [call] := by
  cases call with
  | remove number =>
    rw [perform, Logged.bind_events, List.filterMap_append, setHover_calls]
    rfl
  | add _ _ | setGutter _ _ _ | clearGutter => rfl

theorem perform_renderer (t : Moment) (s : Stage P) (call : SurfaceCall) :
    (s.perform t call).value.renderer = s.renderer := by
  cases call <;> rfl

theorem perform_marks (t : Moment) (s : Stage P) (call : SurfaceCall) :
    (s.perform t call).value.hover.marks.bare =
      MarkTable.perform s.renderer.lookup s.hover.marks.bare call := by
  cases call with
  | add number a => exact List.map_append
  | remove number => exact Hover.revoke_marks t number _
  | setGutter _ _ _ | clearGutter => rfl

theorem performAll_calls (t : Moment) (calls : List SurfaceCall) (s : Stage P) :
    (s.performAll t calls).events.filterMap Event.call? = calls := by
  induction calls generalizing s with
  | nil => rfl
  | cons call calls ih =>
    rw [performAll, List.foldlM_cons, Logged.bind_events, List.filterMap_append, perform_calls]
    exact congrArg (call :: ·) (ih _)

/-- The renderer is left as it is, and in the table the calls come to what they say. -/
theorem performAll_value (t : Moment) (calls : List SurfaceCall) (s : Stage P) :
    (s.performAll t calls).value.renderer = s.renderer ∧
    (s.performAll t calls).value.hover.marks.bare =
      MarkTable.performAll s.renderer.lookup calls s.hover.marks.bare := by
  induction calls generalizing s with
  | nil => exact ⟨rfl, rfl⟩
  | cons call calls ih =>
    obtain ⟨renderer, marks⟩ := ih (s.perform t call).value
    rw [performAll, List.foldlM_cons, Logged.bind_value]
    refine ⟨renderer.trans (perform_renderer t s call), marks.trans ?_⟩
    rw [perform_renderer, perform_marks]
    rfl

theorem clear_renderer (t : Moment) (s : Stage P) :
    (s.clear t).value.renderer = s.renderer.clear.2 := (performAll_value t _ _).1

theorem render_renderer (t : Moment) (groups : List LineGroup) (s : Stage P) :
    (s.render t groups).value.renderer =
      (s.renderer.render s.hover.marks.length groups).2 := (performAll_value t _ _).1

/-- A stage and an editor show groups, when `log` are all the calls the editor has got. -/
def Shows (log : List SurfaceCall) (editor : Editor) (s : Stage P) (groups : List LineGroup) :
    Prop := LiveLint.Shows log editor s.hover.marks.bare s.renderer groups

section

variable {log : List SurfaceCall} {editor : Editor} {s : Stage P} {groups : List LineGroup}

theorem Shows.setHover (h : s.Shows log editor groups) {hover : Hover P}
    (e : hover.marks.bare = s.hover.marks.bare) :
    Shows log editor { s with hover := hover } groups := by
  unfold Shows
  rwa [e]

theorem Shows.clear (h : s.Shows log editor groups) (t : Moment) :
    let calls := (s.clear t).events.filterMap Event.call?
    (s.clear t).value.Shows (log ++ calls) (editor.performAll calls) [] := by
  have calls : (s.clear t).events.filterMap Event.call? = s.renderer.clear.1 :=
    performAll_calls t _ _
  obtain ⟨renderer, marks⟩ :=
    performAll_value t s.renderer.clear.1 { s with renderer := s.renderer.clear.2 }
  rw [calls]
  unfold Shows Stage.clear
  dsimp only
  rw [renderer, marks]
  exact LiveLint.Shows.clear h

theorem Shows.render (h : s.Shows log editor groups) (t : Moment) (next : List LineGroup) :
    let calls := (s.render t next).events.filterMap Event.call?
    (s.render t next).value.Shows (log ++ calls) (editor.performAll calls) next := by
  have size : s.hover.marks.length = s.hover.marks.bare.length := (List.length_map _).symm
  have calls : (s.render t next).events.filterMap Event.call? =
      (s.renderer.render s.hover.marks.length next).1 := performAll_calls t _ _
  obtain ⟨renderer, marks⟩ :=
    performAll_value t (s.renderer.render s.hover.marks.length next).1
      { s with renderer := (s.renderer.render s.hover.marks.length next).2 }
  rw [calls]
  unfold Shows Stage.render
  dsimp only
  rw [renderer, marks, size]
  exact LiveLint.Shows.render h next

end

/-! ## What is rendered -/

/-- A stage that shows some groups, to whatever editor. -/
def Rendered (s : Stage P) : Prop := ∃ log editor groups, s.Shows log editor groups

/-- A stage that shows nothing. -/
structure Blank (s : Stage P) : Prop where
  live : s.renderer.live = []
  inGutter : s.renderer.inGutter = false

section

variable {s : Stage P}

theorem Rendered.setHover (h : s.Rendered) {hover : Hover P}
    (e : hover.marks.bare = s.hover.marks.bare) : Rendered { s with hover := hover } := by
  obtain ⟨log, editor, groups, shows⟩ := h
  exact ⟨log, editor, groups, shows.setHover e⟩

theorem Rendered.clear (h : s.Rendered) (t : Moment) : (s.clear t).value.Rendered := by
  obtain ⟨log, editor, groups, shows⟩ := h
  exact ⟨_, _, [], shows.clear t⟩

theorem Rendered.render (h : s.Rendered) (t : Moment) (groups : List LineGroup) :
    (s.render t groups).value.Rendered := by
  obtain ⟨log, editor, before, shows⟩ := h
  exact ⟨_, _, groups, shows.render t groups⟩

/-- A mark is alive as long as it is listed. -/
theorem Rendered.alive_iff (h : s.Rendered) {n : Nat} {m : Mark Watcher}
    (hm : s.hover.marks[n]? = some m) : m.alive = true ↔ n ∈ s.renderer.live := by
  obtain ⟨log, editor, groups, shows⟩ := h
  have found : s.hover.marks.bare[n]? = some m.bare := by simp [MarkTable.bare, hm]
  rw [← m.bare_alive]
  exact LiveLint.Shows.alive_iff shows found

theorem clear_blank (t : Moment) (s : Stage P) : (s.clear t).value.Blank := by
  constructor <;> rw [clear_renderer] <;> rfl

/-- Where nothing is shown, there is nothing to clear. -/
theorem Blank.clear (blank : s.Blank) (t : Moment) : s.clear t = pure s := by
  obtain ⟨live, inGutter⟩ := blank
  have same : ({ s.renderer with live := [], inGutter := false } : Renderer) = s.renderer := by
    rw [← live, ← inGutter]
  have nothing : s.renderer.clear = ([], s.renderer) := by
    rw [Renderer.clear, same, live, inGutter]
    rfl
  rw [Stage.clear, nothing]
  rfl

/-- Where nothing is shown, the pointer is over no living mark. -/
theorem Blank.filter_alive (blank : s.Blank) (h : s.Rendered) (mark : Option Nat) :
    mark.filter s.hover.marks.isAlive = none := by
  refine Option.filter_eq_none_iff.mpr fun n _ alive => ?_
  unfold MarkTable.isAlive at alive
  cases found : s.hover.marks[n]? with
  | none => simp [found] at alive
  | some m =>
    have listed := (h.alive_iff found).mp (by simpa [found] using alive)
    rw [blank.live] at listed
    cases listed

end

end Stage
end LiveLint
