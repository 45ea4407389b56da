import LiveLint.Proofs.Editor.Calls
import Mathlib.Data.List.Induction
import Mathlib.Tactic.ByContra

/-! # The mark under the pointer

Of the marks at a caret the pointer meets the most severe, and of those the one that was added
first. This is said of every view: where carets are and how wide a blank is, the view knows. -/

namespace LiveLint

namespace EditorMark

/-- No mark of the list is more severe, and those before it are less severe. -/
def IsFirstWorst (m : EditorMark) (marks : List EditorMark) : Prop :=
  ∃ before after, marks = before ++ m :: after ∧
    (∀ n ∈ before, n.rank < m.rank) ∧ ∀ n ∈ after, n.rank ≤ m.rank

/-- One more mark is the worst if there was none before, or only less severe ones. -/
theorem worst?_append_singleton (marks : List EditorMark) (m : EditorMark) :
    worst? (marks ++ [m]) =
      some ((worst? marks).elim m fun b => if b.rank < m.rank then m else b) := by
  rw [worst?, List.foldl_append, ← worst?]
  cases worst? marks with
  | none => rfl
  | some b => exact (apply_ite some _ _ _).symm

theorem exists_isFirstWorst {marks : List EditorMark} (h : marks ≠ []) :
    ∃ m, worst? marks = some m ∧ m.IsFirstWorst marks := by
  induction marks using List.reverseRecOn with
  | nil => exact absurd rfl h
  | append_singleton marks last ih =>
    by_cases first : marks = []
    · subst first
      exact ⟨last, rfl, [], [], rfl, by simp, by simp⟩
    · obtain ⟨b, found, before, after, rfl, less, most⟩ := ih first
      rw [worst?_append_singleton, found]
      dsimp only [Option.elim]
      split
      next worse =>
        refine ⟨last, rfl, before ++ b :: after, [], rfl, fun n hn => ?_, by simp⟩
        rcases List.mem_append.mp hn with hn | hn
        · exact Nat.lt_trans (less n hn) worse
        · rcases List.mem_cons.mp hn with rfl | hn
          · exact worse
          · exact Nat.lt_of_le_of_lt (most n hn) worse
      next kept =>
        refine ⟨b, rfl, before, after ++ [last], by simp, less, fun n hn => ?_⟩
        rcases List.mem_append.mp hn with hn | hn
        · exact most n hn
        · rw [List.mem_singleton.mp hn]
          exact Nat.not_lt.mp kept

theorem worst?_eq_none_iff {marks : List EditorMark} : worst? marks = none ↔ marks = [] := by
  refine ⟨fun none => ?_, fun empty => empty ▸ rfl⟩
  by_contra some
  obtain ⟨m, found, -⟩ := exists_isFirstWorst some
  rw [none] at found
  cases found

theorem IsFirstWorst.worst?_eq {m : EditorMark} {marks : List EditorMark}
    (h : m.IsFirstWorst marks) : worst? marks = some m := by
  obtain ⟨before, after, rfl, less, most⟩ := h
  induction after using List.reverseRecOn with
  | nil =>
    rw [worst?_append_singleton]
    by_cases first : before = []
    · subst first
      rfl
    · obtain ⟨b, found, _, _, rfl, -⟩ := exists_isFirstWorst first
      rw [found, Option.elim, if_pos (less b (by simp))]
  | append_singleton after n ih =>
    have kept : ¬ m.rank < n.rank := Nat.not_lt.mpr (most n (by simp))
    rw [← List.cons_append, ← List.append_assoc, worst?_append_singleton,
      ih fun n hn => most n (List.mem_append_left _ hn), Option.elim, if_neg kept]

theorem worst?_eq_some_iff {m : EditorMark} {marks : List EditorMark} :
    worst? marks = some m ↔ m.IsFirstWorst marks := by
  refine ⟨fun found => ?_, IsFirstWorst.worst?_eq⟩
  have nonempty : marks ≠ [] := fun empty => by
    rw [worst?_eq_none_iff.mpr empty] at found
    cases found
  obtain ⟨m', found', first⟩ := exists_isFirstWorst nonempty
  obtain rfl : m = m' := Option.some.inj (found.symm.trans found')
  exact first

/-- The worst of those marks of a list that are picked out of it. -/
theorem isFirstWorst_filter_iff {m : EditorMark} {marks : List EditorMark}
    {picked : EditorMark → Bool} :
    m.IsFirstWorst (marks.filter picked) ↔
      ∃ before after, marks = before ++ m :: after ∧ picked m = true ∧
        (∀ n ∈ before, picked n = true → n.rank < m.rank) ∧
        ∀ n ∈ after, picked n = true → n.rank ≤ m.rank := by
  constructor
  · rintro ⟨before, after, split, less, most⟩
    obtain ⟨front, back, rfl, rfl, found⟩ := List.filter_eq_append_iff.mp split
    obtain ⟨skipped, rest, rfl, none, pick, rfl⟩ := List.filter_eq_cons_iff.mp found
    refine ⟨front ++ skipped, rest, by simp, pick, fun n hn hp => ?_,
      fun n hn hp => most n (List.mem_filter.mpr ⟨hn, hp⟩)⟩
    rcases List.mem_append.mp hn with hn | hn
    · exact less n (List.mem_filter.mpr ⟨hn, hp⟩)
    · exact absurd hp (none n hn)
  · rintro ⟨before, after, rfl, pick, less, most⟩
    refine ⟨before.filter picked, after.filter picked, ?_, fun n hn => ?_, fun n hn => ?_⟩
    · rw [List.filter_append, List.filter_cons_of_pos pick]
    · obtain ⟨hn, hp⟩ := List.mem_filter.mp hn
      exact less n hn hp
    · obtain ⟨hn, hp⟩ := List.mem_filter.mp hn
      exact most n hn hp

end EditorMark

namespace Editor

/-! ## The order of marks -/

/-- Marks stand in the order in which they were added. -/
structure InOrder (e : Editor) : Prop where
  ascending : e.marks.Pairwise (·.number < ·.number)
  counted : ∀ m ∈ e.marks, m.number < e.added

theorem inOrder_of_no_marks {e : Editor} (h : e.marks = []) : e.InOrder :=
  ⟨h ▸ .nil, h ▸ fun _ none => absurd none List.not_mem_nil⟩

variable {e : Editor}

theorem InOrder.addMark (h : e.InOrder) (span : Option Span) (severity : String) :
    (e.addMark span severity).InOrder where
  ascending := by
    refine List.pairwise_append.mpr ⟨h.ascending, List.pairwise_singleton _ _, fun m hm n hn => ?_⟩
    rw [List.mem_singleton.mp hn]
    exact h.counted m hm
  counted m hm := by
    rcases List.mem_append.mp hm with hm | hm
    · exact Nat.lt_succ_of_lt (h.counted m hm)
    · rw [List.mem_singleton.mp hm]
      exact Nat.lt_succ_self e.added

theorem InOrder.removeMark (h : e.InOrder) (number : Nat) : (e.removeMark number).InOrder where
  ascending := h.ascending.filter _
  counted m hm := h.counted m (List.mem_of_mem_filter hm)

theorem InOrder.perform (h : e.InOrder) (call : SurfaceCall) : (e.perform call).InOrder := by
  cases call with
  | add number a => exact h.addMark _ _
  | remove number => exact h.removeMark number
  | setGutter line severity markup | clearGutter => exact ⟨h.ascending, h.counted⟩

theorem InOrder.performAll (h : e.InOrder) (calls : List SurfaceCall) :
    (e.performAll calls).InOrder := by
  induction calls generalizing e with
  | nil => exact h
  | cons call calls ih => exact ih (h.perform call)

/-! ## Points -/

variable {layout : Layout} {x y : Int}

theorem markIn_eq_none_iff :
    e.markIn layout x y = none ↔
      (∀ m ∈ e.marks, m.isAt (layout.caretAt x y) = false) ∨
        e.page.isBeyond layout x (layout.caretAt x y) = true := by
  unfold markIn
  dsimp only
  split
  next beyond => exact iff_of_true rfl (.inr beyond)
  next near =>
    rw [or_iff_left near, EditorMark.worst?_eq_none_iff, List.filter_eq_nil_iff]
    simp only [Bool.not_eq_true]

theorem markIn_eq_some_iff {m : EditorMark} :
    e.markIn layout x y = some m ↔
      ¬ e.page.isBeyond layout x (layout.caretAt x y) = true ∧
        m.IsFirstWorst (e.marks.filter (·.isAt (layout.caretAt x y))) := by
  unfold markIn
  dsimp only
  split
  next beyond => simp [beyond]
  next near => rw [EditorMark.worst?_eq_some_iff, and_iff_right near]

/-- **The pointer meets the worst mark.** At a point it meets none exactly if none is at the caret
of the point, or the point is more than two blanks to the right of the caret and the caret at the
end of its line. Otherwise it meets one that is at the caret, than which none there is more
severe; whatever stands before it and is at the caret too is less severe. So of the marks that are
as severe, it was added first. -/
theorem met_mark_is_worst (e : Editor) (layout : Layout) (x y : Int) :
    let c := layout.caretAt x y
    let beyond := layout.edge c + 2 * layout.blank < x ∧ e.page.lengthAt c.line ≤ c.column
    (e.markIn layout x y = none ↔ (∀ m ∈ e.marks, m.isAt c = false) ∨ beyond) ∧
    (∀ m, e.markIn layout x y = some m ↔
      ¬ beyond ∧ ∃ before after, e.marks = before ++ m :: after ∧ m.isAt c = true ∧
        (∀ n ∈ before, n.isAt c = true → n.rank < m.rank) ∧
        ∀ n ∈ after, n.isAt c = true → n.rank ≤ m.rank) ∧
    (e.InOrder → ∀ m, e.markIn layout x y = some m →
      ∀ n ∈ e.marks, n.isAt c = true → n.rank = m.rank → m.number ≤ n.number) := by
  intro c beyond
  have isBeyond : e.page.isBeyond layout x c = true ↔ beyond := by simp [Page.isBeyond, beyond]
  have first (m : EditorMark) : e.markIn layout x y = some m ↔
      ¬ beyond ∧ ∃ before after, e.marks = before ++ m :: after ∧ m.isAt c = true ∧
        (∀ n ∈ before, n.isAt c = true → n.rank < m.rank) ∧
        ∀ n ∈ after, n.isAt c = true → n.rank ≤ m.rank := by
    rw [markIn_eq_some_iff, isBeyond, EditorMark.isFirstWorst_filter_iff]
  refine ⟨by rw [markIn_eq_none_iff, isBeyond], first, fun order m met n hn at_ same => ?_⟩
  obtain ⟨-, before, after, split, -, less, -⟩ := (first m).mp met
  obtain ⟨ascending, -⟩ := order
  rw [split] at ascending hn
  rcases List.mem_append.mp hn with earlier | later
  · exact absurd same (Nat.ne_of_lt (less n earlier at_))
  · rcases List.mem_cons.mp later with rfl | later
    · exact Nat.le_refl _
    · have tail := (List.pairwise_append.mp ascending).2.1
      exact Nat.le_of_lt (List.rel_of_pairwise_cons tail later)

/-- Of two errors and a warning the pointer meets the error that was added first, and none of them
far to the right of the line. -/
theorem met_mark_is_worst_of_three :
    let warning : Finding := { range := ⟨⟨1, 1⟩, ⟨1, 4⟩⟩, severity := .warning, message := "long" }
    let error : Finding := { range := ⟨⟨1, 2⟩, ⟨1, 3⟩⟩, severity := .error, message := "bad" }
    let e := (({} : Editor).setText "abc" []).performAll
      [.add 0 warning, .add 1 error, .add 2 { warning with severity := .error }]
    let first : EditorMark := .ofFinding error 1
    let second : EditorMark := .ofFinding { warning with severity := .error } 2
    (e.InOrder ∧ second ∈ e.marks ∧ second.isAt (e.page.caretAt 10 5) = true ∧
      second.rank = first.rank) ∧
    e.markAt 10 5 = some first ∧ first.number ≤ second.number ∧ e.markAt 100 5 = none := by
  intro warning error e first second
  have order : e.InOrder := (inOrder_of_no_marks rfl).performAll _
  have listed : second ∈ e.marks := by decide
  have there : second.isAt (e.page.caretAt 10 5) = true := by decide
  obtain ⟨-, found, added⟩ := e.met_mark_is_worst e.page.layout 10 5
  obtain ⟨none, -⟩ := e.met_mark_is_worst e.page.layout 100 5
  have met : e.markAt 10 5 = some first :=
    (found first).mpr ⟨by decide, [.ofFinding warning 0], [second], rfl, by decide⟩
  exact ⟨⟨order, listed, there, rfl⟩, met, added order first met second listed there rfl,
    none.mpr (.inr (by decide))⟩

end Editor

end LiveLint
