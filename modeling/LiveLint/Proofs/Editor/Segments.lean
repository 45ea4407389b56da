import LiveLint.Proofs.Editor.Coverage

/-! # The parts of a span are what is shown of it

A span is cut line by line, with a case for its first line, one for its last and one for a last
line of which no column is left. What comes out is one half-open range of positions: a character
is in a part exactly if it is not before the start of the span and before its end. -/

namespace LiveLint

/-- A position is in a part if its line is that of the part and its column is in between. -/
def Segment.Covers (part : Segment) (p : Position) : Prop :=
  part.line = p.line ∧ part.start ≤ p.column ∧ p.column < part.stop

instance (part : Segment) (p : Position) : Decidable (part.Covers p) :=
  inferInstanceAs (Decidable (_ ∧ _))

namespace Span

/-- A character of a line is in the part of a span on the line exactly if it is in the span. -/
theorem exists_segment?_covers_iff {s : Span} {number column : Nat} {l : PageLine}
    (inside : column < l.length) :
    (∃ part, s.segment? number l = some part ∧ part.Covers ⟨number, column⟩) ↔
      (⟨number, column⟩ : Position).before s.start = false ∧
        (⟨number, column⟩ : Position).before s.stop = true := by
  simp only [← Bool.not_eq_true, Position.before_iff, start, stop]
  unfold segment?
  split
  next outside =>
    simp only [Bool.or_eq_true, decide_eq_true_eq] at outside
    simp only [reduceCtorEq, false_and, exists_false, false_iff]
    omega
  next reached =>
    simp only [Bool.or_eq_true, decide_eq_true_eq] at reached
    split
    next ended =>
      simp only [Bool.and_eq_true, beq_iff_eq, decide_eq_true_eq] at ended
      simp only [reduceCtorEq, false_and, exists_false, false_iff]
      omega
    next unended =>
      simp only [Option.some.injEq, exists_eq_left', Segment.Covers, true_and]
      split <;> split <;> omega

/-- Only a span of one column is met at more than its characters. -/
theorem contains_iff_of_wide {s : Span} (wide : s.stop ≠ ⟨s.startLine, s.startColumn + 1⟩)
    (p : Position) :
    s.contains p = true ↔ p.before s.start = false ∧ p.before s.stop = true := by
  rw [contains_iff, or_iff_left fun column => wide column.1]

end Span

namespace Page

variable (p : Page) (s : Span) (first last : Int)

theorem segments_ascending : (p.segments s first last).Pairwise (·.line < ·.line) := by
  have numbered : p.lines.zipIdx.Pairwise (·.2 < ·.2) := by
    rw [← List.pairwise_map, List.zipIdx_map_snd]
    exact List.pairwise_lt_range'
  refine numbered.filterMap _ fun (l, n) (l', n') before part found part' found' => ?_
  dsimp only at found found' before
  split at found
  · split at found'
    · rw [(Span.segment?_eq_some found).1, (Span.segment?_eq_some found').1]
      exact before
    · cases found'
  · cases found

variable {p s first last}

theorem exists_segments_covers_iff {line column : Nat} {l : PageLine}
    (listed : p.lines[line]? = some l) (shown : l.hidden = false)
    (inView : first ≤ line ∧ line ≤ last) (inside : column < l.length) :
    (∃ part ∈ p.segments s first last, part.Covers ⟨line, column⟩) ↔
      (⟨line, column⟩ : Position).before s.start = false ∧
        (⟨line, column⟩ : Position).before s.stop = true := by
  rw [← Span.exists_segment?_covers_iff inside]
  constructor
  · rintro ⟨part, member, covers⟩
    obtain ⟨-, l', listed', -, found⟩ := mem_segments_iff.mp member
    have same : part.line = line := Int.ofNat.inj covers.1
    rw [same] at listed' found
    obtain rfl := Option.some.inj (listed.symm.trans listed')
    exact ⟨part, found, covers⟩
  · rintro ⟨part, found, covers⟩
    have same : part.line = line := (Span.segment?_eq_some found).1
    refine ⟨part, mem_segments_iff.mpr ?_, covers⟩
    rw [same]
    exact ⟨inView, l, listed, shown, found⟩

end Page

/-- **The parts of a span are what is shown of it.** There is at most one for each line, from the
upper to the lower, and only for lines of the text that are in view. A character of such a line is
in a part exactly if it is in the half-open range of positions from the start of the span to its
end. Unless the span is one column wide, that is where its mark is met. -/
theorem Page.segments_cover_span (p : Page) (s : Span) (first last : Int) :
    (p.segments s first last).Pairwise (·.line < ·.line) ∧
    (∀ part ∈ p.segments s first last, (first ≤ part.line ∧ part.line ≤ last) ∧
      ∃ l, p.lines[part.line]? = some l ∧ l.hidden = false) ∧
    ∀ (line : Nat) (l : PageLine), p.lines[line]? = some l → l.hidden = false →
      first ≤ line ∧ line ≤ last → ∀ column < l.length,
        let c : Position := ⟨line, column⟩
        let covered := ∃ part ∈ p.segments s first last, part.Covers c
        (covered ↔ c.before s.start = false ∧ c.before s.stop = true) ∧
          (s.stop ≠ ⟨s.startLine, s.startColumn + 1⟩ → (covered ↔ s.contains c = true)) := by
  refine ⟨p.segments_ascending s first last, fun part member => ?_,
    fun line l listed shown inView column inside => ?_⟩
  · obtain ⟨inView, l, listed, shown, -⟩ := mem_segments_iff.mp member
    exact ⟨inView, l, listed, shown⟩
  · intro c covered
    have halfOpen : covered ↔ c.before s.start = false ∧ c.before s.stop = true :=
      exists_segments_covers_iff listed shown inView inside
    exact ⟨halfOpen, fun wide => halfOpen.trans (Span.contains_iff_of_wide wide c).symm⟩

/-- A span that ends at the start of a line covers the line before, and nothing of that line. -/
theorem Page.segments_cover_span_up_to_line_start :
    let p : Page := { lines := Page.linesOf "a\nb\nc\nd\ne\nf" [] }
    let s : Span := ⟨1, 1, 4, 0⟩
    p.segments s 0 5 = [⟨1, 1, 1⟩, ⟨2, 0, 1⟩, ⟨3, 0, 1⟩] ∧
    (p.lines[3]? = some { length := 1 } ∧ p.lines[4]? = some { length := 1 } ∧
      s.stop ≠ ⟨s.startLine, s.startColumn + 1⟩) ∧
    (∃ part ∈ p.segments s 0 5, part.Covers ⟨3, 0⟩) ∧
      (¬ ∃ part ∈ p.segments s 0 5, part.Covers ⟨4, 0⟩) ∧ s.contains ⟨4, 0⟩ = false := by
  intro p s
  have before : p.lines[3]? = some { length := 1 } := by decide
  have listed : p.lines[4]? = some { length := 1 } := by decide
  have wide : s.stop ≠ ⟨s.startLine, s.startColumn + 1⟩ := by decide
  have unmet : s.contains ⟨4, 0⟩ = false := by decide
  obtain ⟨-, -, covered⟩ := segments_cover_span p s 0 5
  obtain ⟨halfOpen, -⟩ := covered 3 { length := 1 } before rfl (by decide) 0 (by decide)
  obtain ⟨-, met⟩ := covered 4 { length := 1 } listed rfl (by decide) 0 (by decide)
  exact ⟨by decide, ⟨before, listed, wide⟩, halfOpen.mpr (by decide),
    fun part => Bool.eq_false_iff.mp unmet ((met wide).mp part), unmet⟩

end LiveLint
