import LiveLint.Mark.Surface
import LiveLint.Proofs.Editor.Calls
import Mathlib.Data.List.Induction
import Mathlib.Data.List.Nodup

/-! # What a renderer asks of a surface

A renderer asks a surface to show marks that it has not shown before, and to take off marks that
it shows. It asks to clear the gutter only if something is in it. A surface that is asked for
no more than that shows each mark once and takes it off at most once. -/

namespace LiveLint

namespace SurfaceCall

/-- The number of the mark that a call takes off. -/
def removed? : SurfaceCall → Option Nat
  | .remove number => some number
  | _ => none

/-- The gutter was set after it was last cleared. -/
def InGutter (calls : List SurfaceCall) : Prop :=
  ∃ early line severity markup late,
    calls = early ++ .setGutter line severity markup :: late ∧ .clearGutter ∉ late

end SurfaceCall

open SurfaceCall

theorem GutterMarker.put_ne_nil {S : Type} (m : GutterMarker S) (markers : List (GutterMarker S)) :
    m.put markers ≠ [] := by
  cases markers with
  | nil => exact List.cons_ne_nil _ _
  | cons n rest =>
    unfold put
    split
    · exact List.cons_ne_nil _ _
    · split <;> exact List.cons_ne_nil _ _

namespace Surface

def applyAll (calls : List SurfaceCall) (s : Surface) : Surface := calls.foldl apply s

theorem applyAll_append (calls more : List SurfaceCall) (s : Surface) :
    s.applyAll (calls ++ more) = (s.applyAll calls).applyAll more := List.foldl_append

/-- A surface for which `made` marks were made is asked for the next of them, or to take away
what it holds. -/
def Accepts (made : Nat) (s : Surface) : SurfaceCall → Prop
  | .add number _ => number = made
  | .remove number => number ∈ s.marks
  | .setGutter _ _ _ => True
  | .clearGutter => s.gutter ≠ []

/-- Each of several calls is one that the surface accepts when it comes. -/
def AcceptsAll : Nat → Surface → List SurfaceCall → Prop
  | _, _, [] => True
  | made, s, c :: calls =>
    s.Accepts made c ∧ AcceptsAll (made + c.handed?.toList.length) (s.apply c) calls

theorem acceptsAll_append {made : Nat} {s : Surface} {calls more : List SurfaceCall} :
    AcceptsAll made s (calls ++ more) ↔ AcceptsAll made s calls ∧
      AcceptsAll (made + (calls.filterMap handed?).length) (s.applyAll calls) more := by
  induction calls generalizing made s with
  | nil => simp [AcceptsAll, applyAll]
  | cons c calls ih =>
    have count : ((c :: calls).filterMap handed?).length =
        c.handed?.toList.length + (calls.filterMap handed?).length := by
      rw [← List.length_append, List.filterMap_cons]
      cases c <;> rfl
    rw [List.cons_append, AcceptsAll, AcceptsAll, ih, count, ← Nat.add_assoc, and_assoc]
    rfl

/-! ## The calls of a renderer -/

theorem applyAll_remove (numbers : List Nat) {s : Surface} (held : s.marks = numbers) (made : Nat) :
    AcceptsAll made s (numbers.map .remove) ∧
      s.applyAll (numbers.map .remove) = { s with marks := [] } := by
  induction numbers generalizing s with
  | nil =>
    obtain ⟨marks, gutter⟩ := s
    obtain rfl := held
    exact ⟨trivial, rfl⟩
  | cons n numbers ih =>
    have first : n ∈ s.marks := by simp [held]
    have left : (s.apply (.remove n)).marks = numbers := by simp [apply, held]
    obtain ⟨accepts, value⟩ := ih left
    exact ⟨⟨first, accepts⟩, value⟩

/-- A renderer knows what a surface holds. -/
structure Holds (r : Renderer) (s : Surface) : Prop where
  marks : s.marks = r.live
  inGutter : r.inGutter = true ↔ s.gutter ≠ []

theorem Holds.clear {r : Renderer} {s : Surface} (h : Holds r s) (made : Nat) :
    AcceptsAll made s r.clear.1 ∧ s.applyAll r.clear.1 = {} := by
  obtain ⟨accepts, value⟩ := applyAll_remove r.live h.marks made
  rw [Renderer.clear, acceptsAll_append, applyAll_append, value]
  cases shown : r.inGutter with
  | true => exact ⟨⟨accepts, h.inGutter.mp shown, trivial⟩, rfl⟩
  | false =>
    have empty : s.gutter = [] := by
      by_contra filled
      rw [h.inGutter.mpr filled] at shown
      cases shown
    exact ⟨⟨accepts, trivial⟩, by simp [applyAll, empty]⟩

theorem applyAll_addMarks (next : Nat) (xs : List Finding) (s : Surface) :
    AcceptsAll next s (Renderer.addMarks next xs) ∧
      s.applyAll (Renderer.addMarks next xs) =
        { s with marks := s.marks ++ List.range' next xs.length } := by
  induction xs generalizing next s with
  | nil => exact ⟨trivial, by simp [Renderer.addMarks, applyAll]⟩
  | cons a xs ih =>
    obtain ⟨accepts, value⟩ := ih (next + 1) (s.apply (.add next a))
    refine ⟨⟨rfl, accepts⟩, value.trans ?_⟩
    simp [apply, List.range'_succ]

theorem applyAll_gutterCall (r : Renderer) (g : LineGroup) (made : Nat) (s : Surface) :
    AcceptsAll made s (r.gutterCall g) ∧
      (s.applyAll (r.gutterCall g)).marks = s.marks ∧
      ((s.applyAll (r.gutterCall g)).gutter ≠ [] ↔
        s.gutter ≠ [] ∨ (r.gutter && !g.findings.isEmpty) = true) := by
  unfold Renderer.gutterCall
  split
  next set =>
    refine ⟨⟨trivial, trivial⟩, rfl, iff_of_true ?_ (.inr set)⟩
    exact GutterMarker.put_ne_nil _ _
  next unset => exact ⟨trivial, rfl, (or_iff_left unset).symm⟩

/-- What is asked for one group. -/
theorem applyAll_group (r : Renderer) (next : Nat) (g : LineGroup) (s : Surface) :
    let calls := Renderer.addMarks next g.findings ++ r.gutterCall g
    AcceptsAll next s calls ∧ (calls.filterMap handed?).length = g.findings.length ∧
      (s.applyAll calls).marks = s.marks ++ List.range' next g.findings.length ∧
      ((s.applyAll calls).gutter ≠ [] ↔
        s.gutter ≠ [] ∨ (r.gutter && !g.findings.isEmpty) = true) := by
  intro calls
  obtain ⟨accepts, value⟩ := applyAll_addMarks next g.findings s
  obtain ⟨accepts', gutter⟩ := applyAll_gutterCall r g
    (next + ((Renderer.addMarks next g.findings).filterMap handed?).length)
    (s.applyAll (Renderer.addMarks next g.findings))
  refine ⟨acceptsAll_append.mpr ⟨accepts, accepts'⟩, ?_, ?_⟩
  · rw [List.filterMap_append, Renderer.addMarks_handed, r.gutterCall_handed, List.append_nil,
      List.length_zipIdx]
  · rw [value] at gutter
    rw [applyAll_append, value]
    exact gutter

theorem applyAll_addGroups (r : Renderer) (next : Nat) (groups : List LineGroup) (s : Surface) :
    AcceptsAll next s (r.addGroups next groups) ∧
      (s.applyAll (r.addGroups next groups)).marks =
        s.marks ++ List.range' next (allFindings groups).length ∧
      ((s.applyAll (r.addGroups next groups)).gutter ≠ [] ↔
        s.gutter ≠ [] ∨ (r.gutter && groups.any fun g => !g.findings.isEmpty) = true) := by
  induction groups generalizing next s with
  | nil => simp [Renderer.addGroups, applyAll, AcceptsAll]
  | cons g rest ih =>
    obtain ⟨accepts, made, marks, gutter⟩ := applyAll_group r next g s
    obtain ⟨accepts', marks', gutter'⟩ := ih (next + g.findings.length)
      (s.applyAll (Renderer.addMarks next g.findings ++ r.gutterCall g))
    rw [Renderer.addGroups, acceptsAll_append, applyAll_append _ (r.addGroups _ rest), made]
    refine ⟨⟨accepts, accepts'⟩, ?_, ?_⟩
    · rw [marks', marks, allFindings_cons, List.length_append, List.append_assoc,
        List.range'_append_1]
    · rw [gutter', gutter, or_assoc, ← Bool.or_eq_true, List.any_cons, ← Bool.and_or_distrib_left]

/-! ## The books of a surface -/

/-- What is in the gutter was set after the gutter was last cleared. -/
theorem inGutter_of_gutter {calls : List SurfaceCall} (filled : (applyAll calls {}).gutter ≠ []) :
    InGutter calls := by
  induction calls using List.reverseRecOn with
  | nil => exact absurd rfl filled
  | append_singleton calls c ih =>
    have later : ∀ {c : SurfaceCall}, c ≠ .clearGutter → InGutter calls →
        InGutter (calls ++ [c]) := by
      rintro c kept ⟨early, line, severity, markup, late, rfl, uncleared⟩
      refine ⟨early, line, severity, markup, late ++ [c], by simp, ?_⟩
      simp [uncleared, kept.symm]
    rw [applyAll_append] at filled
    cases c with
    | add number a => exact later nofun (ih filled)
    | remove number => exact later nofun (ih filled)
    | setGutter line severity markup => exact ⟨calls, line, severity, markup, [], rfl, nofun⟩
    | clearGutter => exact absurd rfl filled

theorem mem_of_mem_applyAll {calls : List SurfaceCall} {s : Surface} {n : Nat}
    (held : n ∈ (s.applyAll calls).marks) : n ∈ s.marks ∨ ∃ a, .add n a ∈ calls := by
  induction calls generalizing s with
  | nil => exact .inl held
  | cons c calls ih =>
    rcases ih held with held | ⟨a, later⟩
    · cases c with
      | add number a =>
        rcases List.mem_append.mp held with held | new
        · exact .inl held
        · obtain rfl := List.mem_singleton.mp new
          exact .inr ⟨a, List.mem_cons_self⟩
      | remove number => exact .inl (List.mem_of_mem_erase held)
      | setGutter _ _ _ | clearGutter => exact .inl held
    · exact .inr ⟨a, List.mem_cons_of_mem _ later⟩

/-- What is known of a surface after calls by which the marks of `xs` were handed to it. -/
structure Books (xs : List Finding) (calls : List SurfaceCall) (s : Surface) : Prop where
  /-- Each mark was handed over once, in the order of the numbers. -/
  handed : calls.filterMap handed? = xs.zipIdx
  inside : ∀ n ∈ s.marks, n < xs.length
  distinct : s.marks.Nodup
  /-- No mark was taken off twice. -/
  once : (calls.filterMap removed?).Nodup
  removed_iff : ∀ n, n ∈ calls.filterMap removed? ↔ n < xs.length ∧ n ∉ s.marks

theorem Books.start : Books [] [] {} := ⟨rfl, nofun, .nil, .nil, fun n => by simp⟩

variable {xs : List Finding} {calls : List SurfaceCall} {s : Surface}

theorem Books.add (h : Books xs calls s) (a : Finding) :
    Books (xs ++ [a]) (calls ++ [.add xs.length a]) (s.apply (.add xs.length a)) := by
  obtain ⟨handed, inside, distinct, once, removed_iff⟩ := h
  have fresh : xs.length ∉ s.marks := fun held => absurd (inside _ held) (Nat.lt_irrefl _)
  have same : (calls ++ [SurfaceCall.add xs.length a]).filterMap removed? =
      calls.filterMap removed? := by simp [removed?]
  refine ⟨by simp [handed, handed?, List.zipIdx_append], ?_, ?_, same ▸ once, fun n => ?_⟩
  · intro n held
    rw [List.length_append]
    rcases List.mem_append.mp held with held | new
    · exact Nat.lt_add_right _ (inside n held)
    · obtain rfl := List.mem_singleton.mp new
      exact Nat.lt_succ_self _
  · exact List.nodup_append_comm.mp (List.nodup_cons.mpr ⟨fresh, distinct⟩)
  · rw [same, removed_iff, List.length_append]
    by_cases last : n = xs.length
    · simp [apply, last]
    · have before : n < xs.length + 1 ↔ n < xs.length := by omega
      simp [apply, last, before]

theorem Books.remove (h : Books xs calls s) {n : Nat} (held : n ∈ s.marks) :
    Books xs (calls ++ [.remove n]) (s.apply (.remove n)) := by
  obtain ⟨handed, inside, distinct, once, removed_iff⟩ := h
  have more : (calls ++ [SurfaceCall.remove n]).filterMap removed? =
      calls.filterMap removed? ++ [n] := by simp [removed?]
  have unremoved : n ∉ calls.filterMap removed? := fun removed =>
    ((removed_iff n).mp removed).2 held
  refine ⟨by simp [handed, handed?], fun k hk => inside k (List.mem_of_mem_erase hk),
    distinct.erase n, ?_, fun k => ?_⟩
  · rw [more]
    exact List.nodup_append_comm.mp (List.nodup_cons.mpr ⟨unremoved, once⟩)
  · rw [more, List.mem_append, removed_iff, List.mem_singleton]
    simp only [apply, distinct.mem_erase_iff]
    constructor
    · rintro (⟨made, gone⟩ | rfl)
      · exact ⟨made, fun kept => gone kept.2⟩
      · exact ⟨inside k held, fun kept => kept.1 rfl⟩
    · rintro ⟨made, gone⟩
      by_cases same : k = n
      · exact .inr same
      · exact .inl ⟨made, fun kept => gone ⟨same, kept⟩⟩

/-- Calls for the gutter change nothing about the marks. -/
theorem Books.gutter (h : Books xs calls s) {c : SurfaceCall} (unhanded : c.handed? = none)
    (unremoved : c.removed? = none) : Books xs (calls ++ [c]) (s.apply c) := by
  obtain ⟨handed, inside, distinct, once, removed_iff⟩ := h
  have same : (s.apply c).marks = s.marks := by
    cases c with
    | add _ _ => cases unhanded
    | remove _ => cases unremoved
    | setGutter _ _ _ | clearGutter => rfl
  have added : (calls ++ [c]).filterMap handed? = calls.filterMap handed? := by simp [unhanded]
  have removed : (calls ++ [c]).filterMap removed? = calls.filterMap removed? := by
    simp [unremoved]
  exact ⟨added.trans handed, same ▸ inside, same ▸ distinct, removed ▸ once,
    fun n => by rw [removed, removed_iff, same]⟩

end Surface
end LiveLint
