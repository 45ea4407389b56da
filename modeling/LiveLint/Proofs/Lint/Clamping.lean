import LiveLint.Proofs.Lint.Decoding
import LiveLint.Proofs.Lint.Range

/-! # Counts that are out of range

The counts of a position may be any integers. An end is decoded with its start at hand, which
stands in for what the end leaves out, and a count of zero is taken for one that was left out.
So decoding agrees with putting the counts in range afterwards, except for some ends with a zero
on the line or in the column of a later start. -/

namespace LiveLint

namespace Position

/-- The position with the counts of another one in place of zeros. -/
def fill (p other : Position) : Position :=
  ⟨if p.line = 0 then other.line else p.line, if p.column = 0 then other.column else p.column⟩

/-- An object that gives the line and the column of a position as integers. It may name the column
a second time, but not if the first name gives zero. -/
structure Given (p : Position) (v : Value) : Prop where
  isDict : v.isDict = true
  line : (Response.place v).field "line" = .int p.line
  column : (Response.place v).field "col" = .int p.column
  single : p.column = 0 → ((Response.place v).field "column").isTruthy = false

end Position

namespace Value

theorem isTruthy_int_iff {n : Int} : (int n).isTruthy = true ↔ n ≠ 0 := by simp [isTruthy]

theorem countOr_int_eq (n default : Int) :
    (int n).countOr default = if n = 0 then default else n := by
  rw [countOr]
  by_cases zero : n = 0
  · rw [if_pos zero, if_neg (mt isTruthy_int_iff.mp (not_not_intro zero))]
  · rw [if_neg zero, if_pos (isTruthy_int_iff.mpr zero)]
    rfl

theorem countOr_of_not_isTruthy {v : Value} (h : v.isTruthy = false) (default : Int) :
    v.countOr default = default := if_neg (Bool.eq_false_iff.mp h)

end Value

namespace Response

section

variable {p : Position} {v : Value}

theorem columnOf_given (h : p.Given v) :
    (columnOf v).IsCount ∧ ∀ default, (columnOf v).countOr default =
      if p.column = 0 then default else p.column := by
  rw [columnOf, h.column, Value.orElse]
  by_cases zero : p.column = 0
  · have unnamed := h.single zero
    rw [if_neg (mt Value.isTruthy_int_iff.mp (not_not_intro zero))]
    simp only [if_pos zero]
    exact ⟨fun named => absurd named (Bool.eq_false_iff.mp unnamed),
      Value.countOr_of_not_isTruthy unnamed⟩
  · rw [if_pos (Value.isTruthy_int_iff.mpr zero)]
    exact ⟨fun _ => ⟨_, rfl⟩, Value.countOr_int_eq p.column⟩

/-- Zeros are filled before the counts are put in range. -/
theorem decodePoint_given (h : p.Given v) (fallback : Position) :
    decodePoint v fallback = .ok (p.fill fallback).clamp := by
  obtain ⟨column, counted⟩ := columnOf_given h
  have line : lineOf v = .int p.line := h.line
  have usable : Usable v := ⟨h.isDict, by rw [line]; exact fun _ => ⟨_, rfl⟩, column⟩
  rw [decodePoint_usable usable, line, Value.countOr_int_eq, counted]
  rfl

end

end Response

namespace Position

theorem fill_origin_clamp (p : Position) : (p.fill Response.origin).clamp = p.clamp := by
  simp only [fill, Response.origin, clamp, mk.injEq]
  omega

theorem fill_clamp (p other : Position) : (p.fill other.clamp).clamp = (p.fill other).clamp := by
  simp only [fill, clamp, mk.injEq]
  omega

end Position

namespace TextRange

/-- A range whose counts are in range ends at the later one of its ends. -/
theorem normalize_parts (p q : Position) :
    (⟨p, q⟩ : TextRange).normalize = ⟨p.clamp, {
      line := max p.clamp.line q.clamp.line
      column :=
        if p.clamp.line < q.clamp.line then q.clamp.column
        else if q.clamp.line < p.clamp.line then p.clamp.column
        else max p.clamp.column q.clamp.column }⟩ := by
  unfold normalize
  generalize p.clamp = start, q.clamp = stop
  obtain ⟨startLine, startColumn⟩ := start
  obtain ⟨stopLine, stopColumn⟩ := stop
  dsimp only
  split
  next inverted =>
    simp only [Position.before, Bool.or_eq_true, Bool.and_eq_true, decide_eq_true_eq,
      beq_iff_eq] at inverted
    simp only [mk.injEq, Position.mk.injEq, true_and]
    omega
  next ordered =>
    simp only [Position.before, Bool.or_eq_true, Bool.and_eq_true, decide_eq_true_eq,
      beq_iff_eq] at ordered
    simp only [mk.injEq, Position.mk.injEq, true_and]
    omega

/-- **When filling makes no difference.** With the zeros of an end filled from its start, a range
is the same once its counts are in range, except where the line is filled from a later line and
the column is one after the start, or the column is filled from a later column on a line after
the start. -/
theorem normalize_fill_iff (p q : Position) :
    (⟨p, q.fill p⟩ : TextRange).normalize = (⟨p, q⟩ : TextRange).normalize ↔
      ¬ (q.line = 0 ∧ 1 < p.line ∧ max 1 p.column < q.column) ∧
      ¬ (q.column = 0 ∧ 1 < p.column ∧ max 1 p.line < q.line) := by
  obtain ⟨line, column⟩ := p
  obtain ⟨endLine, endColumn⟩ := q
  rw [normalize_parts, normalize_parts]
  simp only [Position.fill, Position.clamp, mk.injEq, Position.mk.injEq, true_and]
  by_cases zeroLine : endLine = 0 <;> by_cases zeroColumn : endColumn = 0
  · subst zeroLine zeroColumn
    simp only [if_true]
    omega
  · subst zeroLine
    simp only [zeroColumn, if_true, if_false, false_and, not_false_eq_true, and_true, true_and]
    omega
  · subst zeroColumn
    simp only [zeroLine, if_true, if_false, false_and, not_false_eq_true, true_and]
    omega
  · simp only [zeroLine, zeroColumn, if_false, false_and, not_false_eq_true, and_self]
    exact iff_of_true ⟨trivial, rfl⟩ trivial

end TextRange

namespace Response

theorem describe_normalize (raw : Value) (r : TextRange) :
    (describe raw r).normalize = describe raw r.normalize := by
  rw [describe, describe, Finding.normalize]

theorem describe_range (raw : Value) (r : TextRange) : (describe raw r).range = r := by
  rw [describe]

/-- An entry whose start and end are given is decoded with the zeros of its end filled from its
start. -/
theorem decodeFinding_given {raw : Value} {p q : Position} (position : HasPosition raw)
    (start : p.Given (startOf raw)) (stop : q.Given (endOf raw)) :
    decodeFinding raw = .ok (some (describe raw ⟨p, q.fill p⟩).normalize) := by
  have filled : (⟨p.clamp, (q.fill p).clamp⟩ : TextRange).normalize =
      (⟨p, q.fill p⟩ : TextRange).normalize := by
    simp only [TextRange.normalize, Position.clamp_clamp]
  rw [decodeFinding_position position, decodePoint_given start, Position.fill_origin_clamp]
  show (decodePoint (endOf raw) p.clamp >>= _) = _
  rw [decodePoint_given stop, Position.fill_clamp]
  show Except.ok (some (describe raw _).normalize) = _
  rw [describe_normalize, filled, ← describe_normalize]

/-- **Counts out of range are put in range, except for zeros after a later start.** An entry whose
start and end give integers is decoded to a finding. That is the finding with the counts as they
were given, put in range, exactly unless the line of the end is zero while that of the start is a
later one than the first and the column of the end comes after that of the start; or the column
of the end is zero while that of the start is a later one than the first and the line of the end
comes after that of the start. -/
theorem counts_put_in_range {raw : Value} {p q : Position} (position : HasPosition raw)
    (start : p.Given (startOf raw)) (stop : q.Given (endOf raw)) :
    ∃ a, decodeFinding raw = .ok (some a) ∧
      (a = (describe raw ⟨p, q⟩).normalize ↔
        ¬ (q.line = 0 ∧ 1 < p.line ∧ max 1 p.column < q.column) ∧
        ¬ (q.column = 0 ∧ 1 < p.column ∧ max 1 p.line < q.line)) := by
  refine ⟨_, decodeFinding_given position start stop, ?_⟩
  rw [← TextRange.normalize_fill_iff, describe_normalize, describe_normalize]
  constructor
  · intro same
    have ranges := congrArg Finding.range same
    rwa [describe_range, describe_range] at ranges
  · intro same
    rw [same]

/-- A column of zero in the line of the start, and a negative line. -/
theorem counts_put_in_range_inverted :
    let start := Value.dict [("line", .int (-4)), ("col", .int 7)]
    let stop := Value.dict [("line", .int 1), ("col", .int 0)]
    let raw := Value.dict [("position", .dict [("start", start), ("end", stop)])]
    (HasPosition raw ∧ (⟨-4, 7⟩ : Position).Given (startOf raw) ∧
      (⟨1, 0⟩ : Position).Given (endOf raw)) ∧
    decodeFinding raw = .ok (some (describe raw ⟨⟨1, 7⟩, ⟨1, 7⟩⟩)) := by
  intro start stop raw
  have first : (⟨-4, 7⟩ : Position).Given (startOf raw) := ⟨rfl, rfl, rfl, nofun⟩
  have last : (⟨1, 0⟩ : Position).Given (endOf raw) := ⟨rfl, rfl, rfl, fun _ => rfl⟩
  have position : HasPosition raw := rfl
  obtain ⟨a, decoded, same⟩ := counts_put_in_range position first last
  rw [same.mpr (by decide), describe_normalize] at decoded
  exact ⟨⟨position, first, last⟩, decoded⟩

/-- An end in line zero is decoded as one in the line of its start. In range it would be before
the start. -/
theorem zero_line_of_end_is_filled :
    let start := Value.dict [("line", .int 3), ("col", .int 1)]
    let stop := Value.dict [("line", .int 0), ("col", .int 5)]
    let raw := Value.dict [("position", .dict [("start", start), ("end", stop)])]
    (HasPosition raw ∧ (⟨3, 1⟩ : Position).Given (startOf raw) ∧
      (⟨0, 5⟩ : Position).Given (endOf raw)) ∧
    ∃ a, decodeFinding raw = .ok (some a) ∧ a.range = ⟨⟨3, 1⟩, ⟨3, 5⟩⟩ ∧
      (describe raw ⟨⟨3, 1⟩, ⟨0, 5⟩⟩).normalize.range = ⟨⟨3, 1⟩, ⟨3, 1⟩⟩ := by
  intro start stop raw
  have first : (⟨3, 1⟩ : Position).Given (startOf raw) := ⟨rfl, rfl, rfl, nofun⟩
  have last : (⟨0, 5⟩ : Position).Given (endOf raw) := ⟨rfl, rfl, rfl, nofun⟩
  refine ⟨⟨rfl, first, last⟩, _, decodeFinding_given rfl first last, ?_⟩
  rw [describe_normalize, describe_normalize, describe_range, describe_range]
  decide

end Response
end LiveLint
