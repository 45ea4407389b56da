import LiveLint.Editor.Coverage

/-! # Ranges and their spans

A range from outside may begin before the document and end before it begins. It is put in order
when its finding is, and again when its span is made, each time in another way of counting. The
two agree: a range has the span of its normal form, and that is the normal form itself, counted
from zero. Only a point is widened by one column. -/

namespace LiveLint

/-! ## Positions -/

namespace Position

theorem before_iff {p q : Position} :
    p.before q = true ↔ p.line < q.line ∨ p.line = q.line ∧ p.column < q.column := by
  simp [before]

theorem before_self (p : Position) : p.before p = false := by simp [before]

theorem eq_of_not_before {p q : Position} (h : ¬ p.before q = true) (h' : ¬ q.before p = true) :
    p = q := by
  obtain ⟨line, column⟩ := p
  obtain ⟨line', column'⟩ := q
  simp only [before_iff, mk.injEq] at h h' ⊢
  omega

/-- Lines and columns are counted from one. -/
structure InDocument (p : Position) : Prop where
  line : 1 ≤ p.line
  column : 1 ≤ p.column

theorem clamp_inDocument (p : Position) : p.clamp.InDocument :=
  ⟨Int.le_max_left 1 p.line, Int.le_max_left 1 p.column⟩

theorem InDocument.clamp_eq {p : Position} (h : p.InDocument) : p.clamp = p := by
  obtain ⟨line, column⟩ := h
  rw [clamp, Int.max_eq_right line, Int.max_eq_right column]

theorem clamp_clamp (p : Position) : p.clamp.clamp = p.clamp := p.clamp_inDocument.clamp_eq

end Position

/-! ## Normal forms -/

namespace TextRange

/-- Both ends are in the document, and the second is not before the first. -/
structure IsNormal (r : TextRange) : Prop where
  start : r.start.InDocument
  stop : r.stop.InDocument
  ordered : r.stop.before r.start = false

theorem normalize_isNormal (r : TextRange) : r.normalize.IsNormal := by
  unfold normalize
  dsimp only
  split
  · exact ⟨r.start.clamp_inDocument, r.start.clamp_inDocument, Position.before_self _⟩
  next ordered =>
    exact ⟨r.start.clamp_inDocument, r.stop.clamp_inDocument, Bool.eq_false_iff.mpr ordered⟩

theorem IsNormal.normalize_eq {r : TextRange} (h : r.IsNormal) : r.normalize = r := by
  rw [normalize, h.start.clamp_eq, h.stop.clamp_eq, h.ordered]
  rfl

/-- Exactly the ranges in normal form stay as they are. -/
theorem normalize_eq_self_iff {r : TextRange} : r.normalize = r ↔ r.IsNormal := by
  refine ⟨fun same => ?_, IsNormal.normalize_eq⟩
  rw [← same]
  exact r.normalize_isNormal

theorem normalize_normalize (r : TextRange) : r.normalize.normalize = r.normalize :=
  r.normalize_isNormal.normalize_eq

section

variable {r : TextRange}

theorem normalize_of_before (h : r.start.clamp.before r.stop.clamp = true) :
    r.normalize = ⟨r.start.clamp, r.stop.clamp⟩ := by
  have ordered : r.stop.clamp.before r.start.clamp = false := by
    rw [← Bool.not_eq_true]
    simp only [Position.before_iff] at h ⊢
    omega
  rw [normalize, ordered]
  rfl

theorem normalize_of_not_before (h : r.start.clamp.before r.stop.clamp = false) :
    r.normalize = .point r.start.clamp := by
  have start : (if r.stop.clamp.before r.start.clamp then r.start.clamp else r.stop.clamp) =
      r.start.clamp := by
    split
    · rfl
    next ordered => exact Position.eq_of_not_before ordered (Bool.eq_false_iff.mp h)
  rw [normalize, start]
  rfl

end

end TextRange

/-! ## Spans -/

namespace Span

theorem contains_iff {s : Span} {p : Position} :
    s.contains p = true ↔
      p.before s.start = false ∧ p.before s.stop = true ∨
        s.stop = ⟨s.startLine, s.startColumn + 1⟩ ∧ p = s.stop := by
  simp [contains]

/-- A span that begins before it ends is met at its start. -/
theorem contains_start {s : Span} (ordered : s.start.before s.stop = true) :
    s.contains s.start = true :=
  contains_iff.mpr (.inl ⟨Position.before_self s.start, ordered⟩)

/-- The span of one column. -/
def column (p : Position) : Span := ⟨p.line, p.column, p.line, p.column + 1⟩

end Span

namespace TextRange

/-- The same positions, counted from zero. -/
def fromZero (r : TextRange) : Span :=
  ⟨r.start.line - 1, r.start.column - 1, r.stop.line - 1, r.stop.column - 1⟩

section

variable {r : TextRange}

theorem toSpan_of_before (h : r.start.clamp.before r.stop.clamp = true) :
    r.toSpan = r.normalize.fromZero := by
  rw [normalize_of_before h]
  simp only [Position.before_iff, Position.clamp] at h
  simp only [toSpan, fromZero, Position.clamp]
  rw [if_neg (by simp; omega), Span.mk.injEq]
  omega

theorem toSpan_of_not_before (h : r.start.clamp.before r.stop.clamp = false) :
    r.toSpan = .column r.normalize.fromZero.start := by
  rw [normalize_of_not_before h]
  rw [← Bool.not_eq_true] at h
  simp only [Position.before_iff, Position.clamp] at h
  simp only [toSpan, Span.column, Span.start, fromZero, point, Position.clamp]
  rw [if_pos (by simp; omega), Span.mk.injEq]
  omega

end

/-- **The span of a range is its normal form, counted from zero**, and a point is widened. -/
theorem toSpan_eq (r : TextRange) :
    r.toSpan =
      if r.normalize.isPoint then .column r.normalize.fromZero.start else r.normalize.fromZero := by
  cases h : r.start.clamp.before r.stop.clamp with
  | true =>
    have apart : r.normalize.isPoint = false := by
      rw [normalize_of_before h, isPoint, beq_eq_false_iff_ne]
      intro (same : r.start.clamp = r.stop.clamp)
      rw [← same, Position.before_self] at h
      cases h
    rw [apart, toSpan_of_before h]
    rfl
  | false =>
    have point : r.normalize.isPoint = true := by
      rw [normalize_of_not_before h]
      exact beq_self_eq_true _
    rw [point, toSpan_of_not_before h]
    rfl

theorem toSpan_normalize (r : TextRange) : r.normalize.toSpan = r.toSpan := by
  rw [toSpan_eq, normalize_normalize, ← toSpan_eq]

/-- The span of a range begins before it ends. -/
theorem toSpan_ordered (r : TextRange) : r.toSpan.start.before r.toSpan.stop = true := by
  rw [Position.before_iff]
  cases h : r.start.clamp.before r.stop.clamp with
  | true =>
    rw [toSpan_of_before h, normalize_of_before h]
    rw [Position.before_iff] at h
    simp only [fromZero, Span.start, Span.stop]
    omega
  | false =>
    rw [toSpan_of_not_before h]
    exact .inr ⟨rfl, Int.lt_succ _⟩

theorem toSpan_nonneg (r : TextRange) :
    0 ≤ r.toSpan.startLine ∧ 0 ≤ r.toSpan.startColumn ∧ 0 ≤ r.toSpan.endLine ∧
      0 ≤ r.toSpan.endColumn := by
  obtain ⟨⟨startLine, startColumn⟩, ⟨stopLine, stopColumn⟩, -⟩ := r.normalize_isNormal
  rw [toSpan_eq]
  split <;> simp only [Span.column, Span.start, fromZero] <;> omega

end TextRange

theorem Finding.normalize_eq_self_iff {a : Finding} : a.normalize = a ↔ a.range.IsNormal := by
  rw [← TextRange.normalize_eq_self_iff]
  constructor
  · exact congrArg Finding.range
  · intro same
    rw [normalize, same]

/-- **Ranges are put in order, and their spans with them.** A finding is put into the document by
its range only, at positions that are there and in order; doing it again changes nothing, and so
does doing it to a finding that is in order already, but to no other. The span of any range is
that of its normal form, which is the normal form counted from zero, one column wide if that is a
point. It has no negative coordinates, begins before it ends, and is met where it begins. -/
theorem Finding.range_normalized_then_fromZero (a : Finding) :
    let r := a.normalize.range
    let s := a.range.toSpan
    (1 ≤ r.start.line ∧ 1 ≤ r.start.column ∧ 1 ≤ r.stop.line ∧ 1 ≤ r.stop.column ∧
      r.stop.before r.start = false) ∧
    a.normalize = { a with range := r } ∧
    a.normalize.normalize = a.normalize ∧
    (a.normalize = a ↔
      1 ≤ a.range.start.line ∧ 1 ≤ a.range.start.column ∧ 1 ≤ a.range.stop.line ∧
        1 ≤ a.range.stop.column ∧ a.range.stop.before a.range.start = false) ∧
    s = r.toSpan ∧
    (0 ≤ s.startLine ∧ 0 ≤ s.startColumn ∧ 0 ≤ s.endLine ∧ 0 ≤ s.endColumn) ∧
    s.start.before s.stop = true ∧
    s = (if r.isPoint then .column r.fromZero.start else r.fromZero) ∧
    s.contains s.start = true := by
  intro r s
  obtain ⟨start, stop, ordered⟩ := a.range.normalize_isNormal
  have begins : s.start.before s.stop = true := a.range.toSpan_ordered
  refine ⟨⟨start.line, start.column, stop.line, stop.column, ordered⟩, rfl, ?_, ?_,
    a.range.toSpan_normalize.symm, a.range.toSpan_nonneg, begins, a.range.toSpan_eq,
    Span.contains_start begins⟩
  · exact normalize_eq_self_iff.mpr a.range.normalize_isNormal
  · rw [normalize_eq_self_iff]
    exact ⟨fun ⟨⟨p, q⟩, ⟨p', q'⟩, h⟩ => ⟨p, q, p', q', h⟩,
      fun ⟨p, q, p', q', h⟩ => ⟨⟨p, q⟩, ⟨p', q'⟩, h⟩⟩

end LiveLint
