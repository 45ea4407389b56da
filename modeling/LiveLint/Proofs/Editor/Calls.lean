import LiveLint.Editor.Basic
import LiveLint.Proofs.Lint.Group
import LiveLint.Proofs.Tooltip.Marks
import Mathlib.Data.List.Basic

/-! # The calls of a renderer

A renderer takes away the marks that it put up before, and puts up those of its groups. What
that comes to is said here for the two who carry the calls out: the editor, which holds the
marks that are shown, and the table, which holds all marks ever made. -/

namespace LiveLint

/-- The finding whose mark is handed to the editor by a call, with the number of the mark. -/
def SurfaceCall.handed? : SurfaceCall → Option (Finding × Nat)
  | .add number a => some (a, number)
  | _ => none

namespace GutterMarker

variable {S : Type}

theorem put_last {m : GutterMarker S} {markers : List (GutterMarker S)}
    (h : ∀ n ∈ markers, n.line < m.line) : m.put markers = markers ++ [m] := by
  induction markers with
  | nil => rfl
  | cons n rest ih =>
    have before := h n List.mem_cons_self
    rw [put, if_neg (by omega), if_neg (by omega),
      ih fun k hk => h k (List.mem_cons_of_mem n hk)]
    rfl

/-- Markers that are set by ascending lines stand as they were set. -/
theorem foldl_put {markers more : List (GutterMarker S)}
    (h : (markers ++ more).Pairwise (·.line < ·.line)) :
    more.foldl (fun set m => put m set) markers = markers ++ more := by
  induction more generalizing markers with
  | nil => exact (List.append_nil markers).symm
  | cons m more ih =>
    have first : ∀ n ∈ markers, n.line < m.line := fun n hn =>
      (List.pairwise_append.mp h).2.2 n hn m List.mem_cons_self
    rw [List.append_cons] at h ⊢
    rw [List.foldl_cons, put_last first, ih h]

end GutterMarker

/-! ## The editor -/

/-- The mark of a finding, as the editor holds it. -/
def EditorMark.ofFinding (a : Finding) (number : Nat) : EditorMark :=
  ⟨number, some a.range.toSpan, a.severity.name⟩

namespace Renderer

/-- The marker of a line, as the editor holds it. -/
def marker (r : Renderer) (g : LineGroup) : GutterMarker String :=
  ⟨max 0 (g.line - 1), g.highest.name, findingsMarkup r.lookup g.findings⟩

/-- The markers of a group: none if it has no findings. -/
def markersAt (r : Renderer) (g : LineGroup) : List (GutterMarker String) :=
  if r.gutter && !g.findings.isEmpty then [r.marker g] else []

def markers (r : Renderer) (groups : List LineGroup) : List (GutterMarker String) :=
  groups.flatMap r.markersAt

end Renderer

namespace Editor

/-- Carry out calls, one after the other. -/
def performAll (calls : List SurfaceCall) (e : Editor) : Editor := calls.foldl perform e

theorem performAll_append (calls more : List SurfaceCall) (e : Editor) :
    e.performAll (calls ++ more) = (e.performAll calls).performAll more := List.foldl_append

theorem performAll_remove (numbers : List Nat) (e : Editor) :
    e.performAll (numbers.map .remove) =
      { e with marks := e.marks.filter (·.number ∉ numbers) } := by
  induction numbers generalizing e with
  | nil =>
    have all : e.marks.filter (fun m => decide (m.number ∉ [])) = e.marks := by simp
    rw [all]
    rfl
  | cons n numbers ih =>
    rw [List.map_cons, performAll, List.foldl_cons, ← performAll, ih]
    simp only [perform, removeMark, List.filter_filter, Editor.mk.injEq, true_and, and_true]
    refine List.filter_congr fun m _ => ?_
    rw [Bool.eq_iff_iff]
    simp [and_comm]

theorem performAll_addMarks (next : Nat) (xs : List Finding) (e : Editor) :
    e.performAll (Renderer.addMarks next xs) =
      { e with
        added := e.added + xs.length
        marks := e.marks ++ (xs.zipIdx e.added).map fun p => .ofFinding p.1 p.2 } := by
  induction xs generalizing next e with
  | nil => simp [Renderer.addMarks, performAll]
  | cons a xs ih =>
    rw [Renderer.addMarks, performAll, List.foldl_cons, ← performAll, ih]
    simp [perform, addMark, EditorMark.ofFinding, Nat.add_assoc, Nat.add_comm 1]

theorem performAll_gutterCall (r : Renderer) (g : LineGroup) (e : Editor) :
    e.performAll (r.gutterCall g) =
      { e with gutter := (r.markersAt g).foldl (fun set m => m.put set) e.gutter } := by
  unfold Renderer.gutterCall Renderer.markersAt
  split
  · simp [performAll, perform, setMarker, Renderer.marker]
  · rfl

theorem performAll_addGroups (r : Renderer) (next : Nat) (groups : List LineGroup) (e : Editor) :
    e.performAll (r.addGroups next groups) =
      { e with
        added := e.added + (allFindings groups).length
        marks := e.marks ++ ((allFindings groups).zipIdx e.added).map fun p => .ofFinding p.1 p.2
        gutter := (r.markers groups).foldl (fun set m => m.put set) e.gutter } := by
  induction groups generalizing next e with
  | nil => simp [Renderer.addGroups, performAll, Renderer.markers]
  | cons g rest ih =>
    rw [Renderer.addGroups, performAll_append, performAll_append, ih, performAll_addMarks,
      performAll_gutterCall]
    simp [Renderer.markers, List.zipIdx_append, Nat.add_assoc]

end Editor

/-! ## The gutter of groups -/

section

variable (r : Renderer) {xs : List Finding}

/-- No group of findings is empty, so each has its marker. -/
theorem Renderer.markers_group :
    r.markers (group xs) = if r.gutter then (group xs).map r.marker else [] := by
  have filled : ∀ g ∈ group xs, g.findings.isEmpty = false := fun g hg =>
    List.isEmpty_eq_false_iff.mpr ((group_grouped xs).findings_ne_nil hg)
  unfold markers
  split
  next on =>
    rw [List.map_eq_flatMap]
    refine List.flatMap_congr fun g hg => ?_
    simp [markersAt, on, filled g hg]
  next off => simp [markersAt, off]

theorem one_le_group_line {xs : List Finding} (lines : ∀ a ∈ xs, 1 ≤ a.line) {g : LineGroup}
    (hg : g ∈ group xs) : 1 ≤ g.line := by
  obtain ⟨a, ha, same⟩ := group_line hg
  exact same ▸ lines a ha

theorem Renderer.marker_ascending (lines : ∀ a ∈ xs, 1 ≤ a.line) :
    ((group xs).map r.marker).Pairwise (·.line < ·.line) := by
  refine List.pairwise_map.mpr ((group_grouped xs).ascending.imp_of_mem fun hg _ before => ?_)
  have first := one_le_group_line lines hg
  simp only [Renderer.marker]
  omega

/-- The spans of a line's findings start on it, counted from zero. -/
theorem Finding.toSpan_startLine (a : Finding) : a.range.toSpan.startLine = max 0 (a.line - 1) := by
  unfold TextRange.toSpan Finding.line
  dsimp only
  split <;> rfl

theorem Renderer.marker_line {g : LineGroup} (hg : g ∈ group xs) {a : Finding}
    (ha : a ∈ g.findings) : a.range.toSpan.startLine = (r.marker g).line := by
  rw [a.toSpan_startLine, (group_grouped xs).line_eq hg ha]
  rfl

/-- Spans start on the line of a marker when their findings are in its group. -/
theorem Renderer.filter_marker_line (lines : ∀ a ∈ xs, 1 ≤ a.line) {g : LineGroup}
    (hg : g ∈ group xs) :
    (allFindings (group xs)).filter (·.range.toSpan.startLine == (r.marker g).line) =
      g.findings := by
  rw [← (group_grouped xs).filter_line hg]
  refine List.filter_congr fun a ha => ?_
  obtain ⟨k, hk, ha⟩ := List.mem_flatMap.mp ha
  have at_k := (group_grouped xs).line_eq hk ha
  have first := one_le_group_line lines hg
  have second := one_le_group_line lines hk
  rw [a.toSpan_startLine, Bool.eq_iff_iff, beq_iff_eq, beq_iff_eq]
  simp only [Renderer.marker]
  omega

end

/-! ## The table -/

namespace MarkTable

variable {L : Type}

/-- What a call comes to in the table. -/
def perform (lookup : Option ExampleLookup) (marks : List (Mark L)) : SurfaceCall → List (Mark L)
  | .add _ a => marks ++ [.ofFinding lookup a]
  | .remove number => marks.modify number Mark.revoked
  | _ => marks

def performAll (lookup : Option ExampleLookup) (calls : List SurfaceCall) (marks : List (Mark L)) :
    List (Mark L) := calls.foldl (perform lookup) marks

variable (lookup : Option ExampleLookup)

theorem performAll_append (calls more : List SurfaceCall) (marks : List (Mark L)) :
    performAll lookup (calls ++ more) marks =
      performAll lookup more (performAll lookup calls marks) := List.foldl_append

theorem performAll_remove (dead marks : List (Mark L)) :
    performAll lookup ((List.range' dead.length marks.length).map .remove) (dead ++ marks) =
      dead ++ marks.map Mark.revoked := by
  induction marks generalizing dead with
  | nil => rfl
  | cons m marks ih =>
    have first : perform lookup (dead ++ m :: marks) (.remove dead.length) =
        (dead ++ [m.revoked]) ++ marks := by
      rw [perform, List.modify_eq_take_cons_drop (by simp)]
      simp
    rw [List.length_cons, List.range'_succ, List.map_cons, performAll, List.foldl_cons, first,
      ← performAll]
    simpa using ih (dead ++ [m.revoked])

theorem performAll_addMarks (next : Nat) (xs : List Finding) (marks : List (Mark L)) :
    performAll lookup (Renderer.addMarks next xs) marks =
      marks ++ xs.map (Mark.ofFinding lookup) := by
  induction xs generalizing next marks with
  | nil => exact (List.append_nil marks).symm
  | cons a xs ih =>
    rw [Renderer.addMarks, performAll, List.foldl_cons, ← performAll, ih]
    simp [perform]

theorem performAll_gutterCall (r : Renderer) (g : LineGroup) (marks : List (Mark L)) :
    performAll lookup (r.gutterCall g) marks = marks := by
  unfold Renderer.gutterCall
  split <;> rfl

theorem performAll_addGroups (r : Renderer) (next : Nat) (groups : List LineGroup)
    (marks : List (Mark L)) :
    performAll lookup (r.addGroups next groups) marks =
      marks ++ (allFindings groups).map (Mark.ofFinding lookup) := by
  induction groups generalizing next marks with
  | nil => exact (List.append_nil marks).symm
  | cons g rest ih =>
    rw [Renderer.addGroups, performAll_append, performAll_append, performAll_addMarks,
      performAll_gutterCall, ih]
    simp

end MarkTable

/-! ## The marks that are handed over -/

namespace Renderer

theorem addMarks_handed (next : Nat) (xs : List Finding) :
    (addMarks next xs).filterMap SurfaceCall.handed? = xs.zipIdx next := by
  induction xs generalizing next with
  | nil => rfl
  | cons a xs ih => simp [addMarks, SurfaceCall.handed?, ih]

theorem gutterCall_handed (r : Renderer) (g : LineGroup) :
    (r.gutterCall g).filterMap SurfaceCall.handed? = [] := by
  unfold gutterCall
  split <;> rfl

theorem addGroups_handed (r : Renderer) (next : Nat) (groups : List LineGroup) :
    (r.addGroups next groups).filterMap SurfaceCall.handed? = (allFindings groups).zipIdx next := by
  induction groups generalizing next with
  | nil => rfl
  | cons g rest ih =>
    simp [addGroups, addMarks_handed, gutterCall_handed, ih, List.zipIdx_append]

theorem clear_handed (r : Renderer) : r.clear.1.filterMap SurfaceCall.handed? = [] := by
  have removed : (r.live.map SurfaceCall.remove).filterMap SurfaceCall.handed? = [] := by
    simp [SurfaceCall.handed?]
  rw [clear, List.filterMap_append, removed]
  split <;> rfl

end Renderer

end LiveLint
