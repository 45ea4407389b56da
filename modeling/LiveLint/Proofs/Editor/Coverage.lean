import LiveLint.Editor.Painting
import LiveLint.Proofs.Lint.Range

/-! # What is painted of a mark, and where the mark is met

A mark is painted line by line, and what is painted is brought into its line. Whether a mark is
met at a caret is asked of its span as it is. On the lines of a span the two agree, except where
the span begins beyond the end of its first line. -/

namespace LiveLint

namespace Span

/-- A span of one column that ends where the line begins. It is met there, from the right side
of a character that no line has. -/
def IsLeftOf (s : Span) (line : Int) : Prop := s = ⟨line, -1, line, 0⟩

/-- **Where a span is met on a line.** Between the start of a line and its end there is a caret
in the span exactly if the span begins no later than the end of the line and ends after the
start of the line. -/
theorem exists_contains_iff {s : Span} (ordered : s.start.before s.stop = true) (line : Int)
    (length : Nat) :
    (∃ column ≤ length, s.contains ⟨line, column⟩ = true) ↔
      (⟨line, length⟩ : Position).before s.start = false ∧
        ((⟨line, 0⟩ : Position).before s.stop = true ∨ s.IsLeftOf line) := by
  obtain ⟨startLine, startColumn, endLine, endColumn⟩ := s
  simp only [contains_iff, ← Bool.not_eq_true, Position.before_iff, start, stop, IsLeftOf,
    Position.mk.injEq, Span.mk.injEq] at ordered ⊢
  constructor
  · rintro ⟨column, inside, met⟩
    omega
  · rintro ⟨begun, ended⟩
    -- the first column that is on the line and not before the span
    by_cases first : startLine = line
    · exact ⟨(max 0 startColumn).toNat, by omega, by omega⟩
    · exact ⟨0, by omega, by omega⟩

/-- The part of a span on a line is there if the span reaches the line, and does not end at the
start of it after it began on an earlier one. -/
theorem segment?_eq_some {s : Span} {number : Nat} {l : PageLine} {part : Segment}
    (h : s.segment? number l = some part) :
    part.line = number ∧ s.startLine ≤ number ∧ number ≤ s.endLine ∧
      (s.endLine = number → s.endColumn = 0 → s.startLine = number) := by
  unfold segment? at h
  split at h
  · cases h
  next reached =>
    split at h
    · cases h
    next unended =>
      obtain rfl := Option.some.inj h
      simp only [Bool.or_eq_true, Bool.and_eq_true, decide_eq_true_eq, beq_iff_eq]
        at reached unended
      exact ⟨rfl, by omega, by omega, by omega⟩

end Span

theorem Page.mem_segments_iff {p : Page} {s : Span} {first last : Int} {part : Segment} :
    part ∈ p.segments s first last ↔
      (first ≤ part.line ∧ part.line ≤ last) ∧
        ∃ l, p.lines[part.line]? = some l ∧ l.hidden = false ∧
          s.segment? part.line l = some part := by
  constructor
  · intro member
    obtain ⟨⟨l, number⟩, listed, found⟩ := List.mem_filterMap.mp member
    dsimp only at found
    split at found
    next here =>
      obtain ⟨line, -⟩ := Span.segment?_eq_some found
      simp only [Bool.and_eq_true, decide_eq_true_eq, Bool.not_eq_true'] at here
      rw [line]
      exact ⟨here.1, l, List.mem_zipIdx_iff_getElem?.mp listed, here.2, found⟩
    · cases found
  · rintro ⟨here, l, line, shown, found⟩
    refine List.mem_filterMap.mpr ⟨(l, part.line), List.mem_zipIdx_iff_getElem?.mpr line, ?_⟩
    simp [here, shown, found]

theorem Page.of_mem_segments {p : Page} {s : Span} {first last : Int} {part : Segment}
    (h : part ∈ p.segments s first last) :
    ∃ l, p.lines[part.line]? = some l ∧ s.segment? part.line l = some part := by
  obtain ⟨-, l, line, -, found⟩ := mem_segments_iff.mp h
  exact ⟨l, line, found⟩

/-- The part of a span on a line is met unless it is outside of the line. -/
theorem Page.segment_met_iff {p : Page} {s : Span} {first last : Int} {part : Segment}
    (ordered : s.start.before s.stop = true) (h : part ∈ p.segments s first last) :
    (∃ column ≤ p.lengthAt part.line, s.contains ⟨part.line, column⟩ = true) ↔
      ¬ (s.startLine = part.line ∧ p.lengthAt part.line < s.startColumn) ∧
      ¬ (s.endLine = part.line ∧ s.endColumn ≤ 0 ∧ ¬ s.IsLeftOf part.line) := by
  obtain ⟨l, -, found⟩ := of_mem_segments h
  obtain ⟨-, begun, reached, -⟩ := Span.segment?_eq_some found
  rw [Span.exists_contains_iff ordered]
  simp only [← Bool.not_eq_true, Position.before_iff, Span.start, Span.stop]
  generalize s.IsLeftOf part.line = left
  by_cases h : left
  · simp only [h, not_true_eq_false, and_false, or_true, and_true, not_false_eq_true]
    omega
  · simp only [h, not_false_eq_true, and_true, or_false]
    omega

/-- **What is painted of a mark can be met, unless it is painted outside of its line.** The part
on a line of a span that begins before it ends is met at some caret of the line, except where
the span begins beyond the end of the line or ends to the left of it. The span of a range never
ends to the left of a line. -/
theorem painted_is_met (p : Page) (first last : Int) :
    (∀ s : Span, s.start.before s.stop = true → ∀ part ∈ p.segments s first last,
      ((∃ column ≤ p.lengthAt part.line, s.contains ⟨part.line, column⟩ = true) ↔
        ¬ (s.startLine = part.line ∧ p.lengthAt part.line < s.startColumn) ∧
        ¬ (s.endLine = part.line ∧ s.endColumn ≤ 0 ∧ ¬ s.IsLeftOf part.line))) ∧
    ∀ r : TextRange, ∀ part ∈ p.segments r.toSpan first last,
      ((∃ column ≤ p.lengthAt part.line, r.toSpan.contains ⟨part.line, column⟩ = true) ↔
        ¬ (r.toSpan.startLine = part.line ∧ p.lengthAt part.line < r.toSpan.startColumn)) := by
  refine ⟨fun s ordered part member => Page.segment_met_iff ordered member,
    fun r part member => ?_⟩
  have ordered := r.toSpan_ordered
  obtain ⟨-, startColumn, -, endColumn⟩ := r.toSpan_nonneg
  obtain ⟨l, -, found⟩ := Page.of_mem_segments member
  obtain ⟨-, -, -, ended⟩ := Span.segment?_eq_some found
  rw [Page.segment_met_iff ordered member]
  refine and_iff_left ?_
  rintro ⟨last, none, -⟩
  -- a part on the last line of which no column is left began there, and so it is not in order
  have same := ended last (by omega)
  simp only [Position.before_iff, Span.start, Span.stop] at ordered
  omega

/-- A span that ends at the start of a line is painted on the empty line before, and met there. -/
theorem painted_is_met_on_empty_line :
    let p : Page := { lines := [{ length := 2 }, { length := 0 }, { length := 3 }] }
    let r : TextRange := ⟨⟨1, 2⟩, ⟨3, 1⟩⟩
    (r.toSpan.start.before r.toSpan.stop = true ∧
      p.segments r.toSpan 0 2 = [⟨0, 1, 2⟩, ⟨1, 0, 0⟩]) ∧
    (∃ column ≤ p.lengthAt 0, r.toSpan.contains ⟨0, column⟩ = true) ∧
      ∃ column ≤ p.lengthAt 1, r.toSpan.contains ⟨1, column⟩ = true := by
  intro p r
  have parts : p.segments r.toSpan 0 2 = [⟨0, 1, 2⟩, ⟨1, 0, 0⟩] := by decide
  have ordered : r.toSpan.start.before r.toSpan.stop = true := by decide
  obtain ⟨spans, ranges⟩ := painted_is_met p 0 2
  have first := spans r.toSpan ordered ⟨0, 1, 2⟩ (by simp [parts])
  have second := ranges r ⟨1, 0, 0⟩ (by simp [parts])
  have unended : r.toSpan.endLine ≠ 0 := by decide
  exact ⟨⟨ordered, parts⟩, first.mpr ⟨by decide, fun ended => unended ended.1⟩,
    second.mpr (by decide)⟩

/-- A mark in the second column of an empty line is painted at its start, and met nowhere. -/
theorem painted_beyond_line_unmet :
    let p : Page := {}
    let s := TextRange.toSpan ⟨⟨1, 2⟩, ⟨1, 3⟩⟩
    (s.start.before s.stop = true ∧ p.segments s 0 0 = [⟨0, 1, 2⟩] ∧
      Editor.squiggleEnds p ⟨0, 1, 2⟩ = (0, Page.charWidth)) ∧
    ¬ ∃ column ≤ p.lengthAt 0, s.contains ⟨0, column⟩ = true := by
  decide

end LiveLint
