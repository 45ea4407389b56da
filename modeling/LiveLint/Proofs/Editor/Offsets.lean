import LiveLint.Editor.Basic
import LiveLint.Proofs.Lint.Range
import Mathlib.Tactic.ByContra

/-! # Lines, columns and offsets

A caret is also known by its offset: the lengths of the lines before its own, one more for the
break behind each of them, and its column. Each offset is that of one caret, and offsets are in
the order of carets, so going to a line and a column through their offset ends at that line and
that column. -/

namespace LiveLint

namespace Page

/-! ## Where lines start -/

/-- The number of characters and line breaks before a line. -/
def lineStart : List PageLine → Nat → Nat
  | l :: rest, n + 1 => l.length + 1 + lineStart rest n
  | _, _ => 0

@[simp] theorem lineStart_zero (lines : List PageLine) : lineStart lines 0 = 0 := by
  cases lines <;> rfl

@[simp] theorem lineStart_cons_succ (l : PageLine) (rest : List PageLine) (n : Nat) :
    lineStart (l :: rest) (n + 1) = l.length + 1 + lineStart rest n := rfl

/-- Lines start behind all lines before them. -/
theorem lineStart_lt {lines : List PageLine} {l : PageLine} {m n : Nat} (h : lines[m]? = some l)
    (before : m < n) : lineStart lines m + l.length < lineStart lines n := by
  induction lines generalizing m n with
  | nil => cases h
  | cons first rest ih =>
    obtain ⟨n, rfl⟩ := Nat.exists_eq_succ_of_ne_zero (Nat.ne_zero_of_lt before)
    cases m with
    | zero =>
      obtain rfl : first = l := Option.some.inj h
      rw [lineStart_zero, lineStart_cons_succ]
      omega
    | succ m =>
      have later := ih h (Nat.lt_of_succ_lt_succ before)
      rw [lineStart_cons_succ, lineStart_cons_succ]
      omega

variable {p : Page} {c d : Caret}

/-- The caret is in the text: in one of the lines, or at the end of one. -/
def Has (p : Page) (c : Caret) : Prop := ∃ l, p.lines[c.line]? = some l ∧ c.column ≤ l.length

theorem offset_eq (p : Page) (c : Caret) : p.offset c = lineStart p.lines c.line + c.column := by
  rw [offset]
  generalize c.line = n, c.column = column
  induction p.lines generalizing n column with
  | nil =>
    rw [List.take_nil]
    exact (Nat.zero_add column).symm
  | cons l rest ih =>
    cases n with
    | zero =>
      rw [lineStart_zero]
      exact (Nat.zero_add column).symm
    | succ n =>
      rw [List.take_succ_cons, List.foldl_cons, ih, lineStart_cons_succ]
      omega

/-! ## Offsets and carets -/

theorem caretFrom_eq_some {lines : List PageLine} {number offset : Nat} :
    caretFrom number offset lines = some c ↔
      ∃ n l, c.line = number + n ∧ lines[n]? = some l ∧ c.column ≤ l.length ∧
        lineStart lines n + c.column = offset := by
  induction lines generalizing number offset with
  | nil =>
    constructor
    · intro found
      cases found
    · intro placed
      obtain ⟨n, l, -, at_n, -⟩ := placed
      cases at_n
  | cons first rest ih =>
    rw [caretFrom]
    split
    next inFirst =>
      constructor
      · intro found
        obtain rfl := Option.some.inj found
        refine ⟨0, first, rfl, rfl, inFirst, ?_⟩
        rw [lineStart_zero, Nat.zero_add]
      · intro placed
        obtain ⟨n, l, line, at_n, -, same⟩ := placed
        cases n with
        | zero =>
          obtain ⟨_, _⟩ := c
          obtain rfl : _ = number := line
          rw [← same, lineStart_zero, Nat.zero_add]
        | succ n =>
          rw [lineStart_cons_succ] at same
          omega
    next later =>
      rw [ih]
      constructor
      · intro placed
        obtain ⟨n, l, line, at_n, short, same⟩ := placed
        refine ⟨n + 1, l, by omega, at_n, short, ?_⟩
        rw [lineStart_cons_succ]
        omega
      · intro placed
        obtain ⟨n, l, line, at_n, short, same⟩ := placed
        cases n with
        | zero =>
          obtain rfl : first = l := Option.some.inj at_n
          rw [lineStart_zero] at same
          omega
        | succ n =>
          rw [lineStart_cons_succ] at same
          exact ⟨n, l, by omega, at_n, short, by omega⟩

/-- **An offset is that of one caret.** -/
theorem caretOf?_eq_some {offset : Nat} :
    p.caretOf? offset = some c ↔ p.Has c ∧ p.offset c = offset := by
  rw [caretOf?, caretFrom_eq_some, offset_eq]
  constructor
  · intro placed
    obtain ⟨n, l, line, at_n, short, same⟩ := placed
    obtain rfl : c.line = n := line.trans (Nat.zero_add n)
    exact ⟨⟨l, at_n, short⟩, same⟩
  · intro has
    obtain ⟨⟨l, at_line, short⟩, same⟩ := has
    exact ⟨c.line, l, (Nat.zero_add _).symm, at_line, short, same⟩

theorem caret_before_iff :
    c.position.before d.position = true ↔
      c.line < d.line ∨ c.line = d.line ∧ c.column < d.column := by
  have lines : c.position.line < d.position.line ↔ c.line < d.line := Int.ofNat_lt
  have columns : c.position.column < d.position.column ↔ c.column < d.column := Int.ofNat_lt
  have same : c.position.line = d.position.line ↔ c.line = d.line := Int.ofNat_inj
  rw [Position.before_iff, lines, columns, same]

theorem offset_lt (hc : p.Has c) (h : c.position.before d.position = true) :
    p.offset c < p.offset d := by
  obtain ⟨l, at_line, short⟩ := hc
  rw [offset_eq, offset_eq]
  obtain above | ⟨same, left⟩ := caret_before_iff.mp h
  · have behind := lineStart_lt at_line above
    omega
  · rw [same]
    omega

/-- **Offsets are in the order of carets.** -/
theorem offset_lt_iff (hc : p.Has c) (hd : p.Has d) :
    p.offset c < p.offset d ↔ c.position.before d.position = true := by
  refine ⟨fun less => ?_, offset_lt hc⟩
  by_contra other
  rw [caret_before_iff] at other
  obtain after | same : d.position.before c.position = true ∨ c = d := by
    obtain ⟨_, _⟩ := c
    obtain ⟨_, _⟩ := d
    rw [caret_before_iff, Caret.mk.injEq]
    dsimp only at other ⊢
    omega
  · have greater := offset_lt hd after
    omega
  · rw [same] at less
    exact Nat.lt_irrefl _ less

theorem offset_injective (hc : p.Has c) (hd : p.Has d) (same : p.offset c = p.offset d) :
    c = d := by
  have found : p.caretOf? (p.offset d) = some c := caretOf?_eq_some.mpr ⟨hc, same⟩
  rw [caretOf?_eq_some.mpr ⟨hd, rfl⟩] at found
  exact (Option.some.inj found).symm

/-! ## Lines and columns -/

variable {line column : Int}

theorem clampTo_le (limit : Nat) (n : Int) : clampTo limit n ≤ limit := by
  rw [clampTo]
  omega

theorem caret?_eq_none : p.caret? line column = none ↔ (p.lines.length : Int) ≤ max 0 line := by
  rw [caret?, Option.map_eq_none_iff, List.getElem?_eq_none_iff]
  omega

theorem has_of_caret? (h : p.caret? line column = some c) : p.Has c := by
  obtain ⟨l, at_line, rfl⟩ := Option.map_eq_some_iff.mp h
  exact ⟨l, at_line, clampTo_le l.length column⟩

theorem Has.caret? (h : p.Has c) : p.caret? c.line c.column = some c := by
  obtain ⟨l, at_line, short⟩ := h
  have line : (max 0 (c.line : Int)).toNat = c.line := by omega
  have column : clampTo l.length c.column = c.column := by
    rw [clampTo]
    omega
  rw [Page.caret?, line, at_line, Option.map_some, column]

theorem Has.position? (h : p.Has c) : p.position? c.line c.column = some (p.offset c) := by
  rw [Page.position?, h.caret?, Option.map_some]

theorem getElem?_linesOf (text : String) (hidden : List Int) (n : Nat) :
    (linesOf text hidden)[n]? =
      (Text.documentLines text)[n]?.map fun s => ⟨s.length, hidden.contains (n : Int)⟩ := by
  rw [linesOf, List.getElem?_map, List.getElem?_zipIdx, Option.map_map, Nat.zero_add]
  rfl

theorem length_linesOf (text : String) (hidden : List Int) :
    (linesOf text hidden).length = (Text.documentLines text).length := by
  rw [linesOf, List.length_map, List.length_zipIdx]

/-! ## Lines of documents -/

section

variable {text : String} {hidden : List Int} (shown : p.lines = linesOf text hidden)
include shown

theorem caret?_eq_none_iff_below (column : Int) :
    p.caret? line column = none ↔ ((Text.documentLines text).length : Int) ≤ max 0 line := by
  rw [caret?_eq_none, shown, length_linesOf]

theorem exists_caret? (column : Int) (inside : max 0 line < (Text.documentLines text).length) :
    ∃ l, (Text.documentLines text)[(max 0 line).toNat]? = some l ∧ p.caret? line column =
      some ⟨(max 0 line).toNat, (max 0 (min column l.length)).toNat⟩ := by
  have within : (max 0 line).toNat < (Text.documentLines text).length := by omega
  refine ⟨_, List.getElem?_eq_getElem within, ?_⟩
  rw [caret?, shown, getElem?_linesOf, List.getElem?_eq_getElem within]
  rfl

end

end Page

/-- The caret is in one of the lines, or at the end of one. -/
def Caret.IsIn (c : Caret) (lines : List String) : Prop :=
  ∃ l, lines[c.line]? = some l ∧ c.column ≤ l.length

theorem Caret.IsIn.has {c : Caret} {text : String} (h : c.IsIn (Text.documentLines text))
    {p : Page} {hidden : List Int} (shown : p.lines = Page.linesOf text hidden) : p.Has c := by
  obtain ⟨l, at_line, short⟩ := h
  refine ⟨⟨l.length, hidden.contains (c.line : Int)⟩, ?_, short⟩
  rw [shown, Page.getElem?_linesOf, at_line]
  rfl

namespace Editor

variable {e : Editor} {line column : Int}

/-! ## Going to a line and a column -/

theorem goTo_beyond (h : e.page.caret? line column = none) : e.goTo line column = e := by
  rw [goTo, Page.position?, h]
  rfl

theorem goTo_caret {c : Caret} (h : e.page.caret? line column = some c) :
    e.goTo line column = { e with caret := c } := by
  have back : e.page.caretOf? (e.page.offset c) = some c :=
    Page.caretOf?_eq_some.mpr ⟨Page.has_of_caret? h, rfl⟩
  rw [goTo, Page.position?, h]
  show e.setCaret (e.page.offset c) = _
  rw [setCaret, back]
  rfl

/-- How the editor finds its way in these lines: there are offsets in them only, going below
them leaves the caret where it is, wherever that is, going to one of them leads to the nearest
column, and offsets are in the order of lines and columns. -/
structure Navigates (e : Editor) (lines : List String) : Prop where
  beyond : ∀ line column : Int,
    e.page.position? line column = none ↔ (lines.length : Int) ≤ max 0 line
  untouched : ∀ line column : Int,
    (∀ c, ({ e with caret := c }.goTo line column).caret = c) ↔ (lines.length : Int) ≤ max 0 line
  stays : ∀ line column : Int, (lines.length : Int) ≤ max 0 line → e.goTo line column = e
  moves : ∀ line column : Int, max 0 line < lines.length →
    ∃ l, lines[(max 0 line).toNat]? = some l ∧ e.goTo line column =
      { e with caret := ⟨(max 0 line).toNat, (max 0 (min column l.length)).toNat⟩ }
  ordered : ∀ c d : Caret, c.IsIn lines → d.IsIn lines → ∃ m n,
    e.page.position? c.line c.column = some m ∧ e.page.position? d.line d.column = some n ∧
      (c.position.before d.position = true ↔ m < n) ∧ (m = n → c = d)

/-- **Lines and columns are found again through their offsets.** -/
theorem navigates_documentLines {text : String} {hidden : List Int}
    (shown : e.page.lines = Page.linesOf text hidden) :
    e.Navigates (Text.documentLines text) := by
  constructor
  case beyond =>
    intro line column
    rw [Page.position?, Option.map_eq_none_iff, Page.caret?_eq_none_iff_below shown]
  case untouched =>
    intro line column
    constructor
    · intro untouched
      by_contra inside
      obtain ⟨l, -, found⟩ := Page.exists_caret? shown column (Int.not_le.mp inside)
      -- a caret further to the right would be moved
      let c : Caret := ⟨(max 0 line).toNat, (max 0 (min column l.length)).toNat + 1⟩
      have moved : { e with caret := c }.goTo line column = { e with caret := ⟨_, _⟩ } :=
        goTo_caret found
      have same := untouched c
      rw [moved] at same
      exact Nat.succ_ne_self _ (Caret.mk.inj same).2.symm
    · intro below c
      have beyond := (Page.caret?_eq_none_iff_below shown column).mpr below
      have same : { e with caret := c }.goTo line column = { e with caret := c } :=
        goTo_beyond beyond
      rw [same]
  case stays =>
    intro line column below
    exact goTo_beyond ((Page.caret?_eq_none_iff_below shown column).mpr below)
  case moves =>
    intro line column inside
    obtain ⟨l, at_line, found⟩ := Page.exists_caret? shown column inside
    exact ⟨l, at_line, goTo_caret found⟩
  case ordered =>
    intro c d hc hd
    have hc := hc.has shown
    have hd := hd.has shown
    exact ⟨_, _, hc.position?, hd.position?, (Page.offset_lt_iff hc hd).symm,
      Page.offset_injective hc hd⟩

/-- A hidden empty line between two others, and a caret in the last one. -/
theorem navigates_three_lines :
    let e : Editor := { ({} : Editor).setText "abc\n\nde" [1] with caret := ⟨2, 1⟩ }
    e.page.lines = Page.linesOf "abc\n\nde" [1] ∧ e.Navigates ["abc", "", "de"] ∧
      ((e.goTo (-3) 9).caret = ⟨0, 3⟩ ∧ e.page.position? (-3) 9 = some 3) ∧
      ((e.goTo 1 7).caret = ⟨1, 0⟩ ∧ e.page.position? 1 7 = some 4) ∧
      ((e.goTo 2 (-1)).caret = ⟨2, 0⟩ ∧ e.page.position? 2 (-1) = some 5) ∧
      (e.goTo 3 0).caret = ⟨2, 1⟩ ∧ e.page.position? 3 0 = none := by
  intro e
  have shown : e.page.lines = Page.linesOf "abc\n\nde" [1] := rfl
  exact ⟨shown, navigates_documentLines shown, ⟨rfl, rfl⟩, ⟨rfl, rfl⟩, ⟨rfl, rfl⟩, rfl, rfl⟩

end Editor
end LiveLint
