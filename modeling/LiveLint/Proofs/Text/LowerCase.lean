import LiveLint.Text.Blank
import LiveLint.Text.LowerCase

/-! # Names in one form

Names are compared trimmed and in lower case. A text that was brought into this form stays as
it is when that is done again: what is trimmed has no blanks at its ends, no lower-case
character is a capital or a blank, and so lower-casing neither finds anything to do twice nor
makes blanks to trim. -/

namespace LiveLint.Text

/-! ## Trimming -/

theorem isTrimmedBy_trimBy (p : Char → Bool) (cs : List Char) : IsTrimmedBy p (trimBy p cs) := by
  have refused (l : List Char) (c : Char) (h : (l.dropWhile p).head? = some c) : p c = false := by
    simpa [h] using List.head?_dropWhile_not p l
  constructor
  · intro c hc
    rw [trimBy, List.head?_reverse] at hc
    -- what is dropped from the end is not the first character
    obtain ⟨dropped, split⟩ := List.dropWhile_suffix p (l := (cs.dropWhile p).reverse)
    refine refused cs c ?_
    rw [← List.getLast?_reverse, ← split, List.getLast?_append, hc, Option.some_or]
  · intro c hc
    rw [trimBy, List.getLast?_reverse] at hc
    exact refused _ c hc

theorem trim_eq_self_iff {s : String} : trim s = s ↔ IsTrimmedBy isBlank s.toList := by
  constructor
  · intro h
    have chars : trimBy isBlank s.toList = s.toList := by
      rw [← String.toList_ofList (l := trimBy isBlank s.toList)]
      exact congrArg String.toList h
    exact chars ▸ isTrimmedBy_trimBy isBlank s.toList
  · intro h
    rw [trim, trimBy_eq_self h, String.ofList_toList]

@[simp] theorem trim_trim (s : String) : trim (trim s) = trim s := by
  rw [trim_eq_self_iff, trim, String.toList_ofList]
  exact isTrimmedBy_trimBy isBlank s.toList

/-! ## The table of capitals -/

namespace CaseRun

/-- The lower form of a capital of the run, as a code point. -/
def lower (r : CaseRun) (n : Nat) : Nat := (n + r.shift).toNat

/-- No lower form of `r` is a capital of `s`: they lie apart, or they take turns. -/
def misses (r s : CaseRun) : Bool :=
  Nat.blt (r.lower r.last) s.first || Nat.blt s.last (r.lower r.first) ||
    ((r.step == 2 || r.first == r.last) && s.step == 2 && (r.lower r.first - s.first) % 2 == 1)

/-- Where no lower form lies: what comes before the small letters, what comes between those of
ASCII and the first accented one, the dotted capital I, the blanks, and the surrogates. -/
def gaps : List (Nat × Nat) := [
  (0, 0x60), (0x7b, 0xa0), (0x130, 0x130), (0x1680, 0x1680), (0x2000, 0x200a), (0x2028, 0x202f),
  (0x205f, 0x205f), (0x3000, 0x3000), (0xd800, 0xdfff)]

def avoidsGaps (r : CaseRun) : Bool :=
  Nat.ble (r.lower r.last) 0x10ffff &&
    gaps.all fun g => Nat.blt (r.lower r.last) g.1 || Nat.blt g.2 (r.lower r.first)

end CaseRun

theorem caseRuns_miss : (caseRuns.all fun r => caseRuns.all r.misses) = true := by
  decide +kernel

theorem caseRuns_avoidGaps : caseRuns.all (·.avoidsGaps) = true := by decide +kernel

/-- A code point that is no capital and can be a character that is neither blank nor the dotted
capital I. -/
structure IsLowerForm (m : Nat) : Prop where
  noCapital : ∀ s ∈ caseRuns, s.contains m = false
  noGap : ∀ g ∈ CaseRun.gaps, m < g.1 ∨ g.2 < m
  bound : m ≤ 0x10ffff

theorem CaseRun.lower_isLowerForm {r : CaseRun} (hr : r ∈ caseRuns) {n : Nat}
    (hn : r.contains n = true) : IsLowerForm (r.lower n) := by
  obtain ⟨⟨first, last⟩, step⟩ : (r.first ≤ n ∧ n ≤ r.last) ∧ (n - r.first) % r.step = 0 := by
    simpa [contains] using hn
  have avoids : r.lower r.last ≤ 0x10ffff ∧
      ∀ g ∈ gaps, r.lower r.last < g.1 ∨ g.2 < r.lower r.first := by
    simpa [avoidsGaps] using List.all_eq_true.mp caseRuns_avoidGaps r hr
  have low : r.lower r.first ≤ r.lower n := by unfold lower; omega
  have high : r.lower n ≤ r.lower r.last := by unfold lower; omega
  refine ⟨fun s hs => ?_, fun g hg => ?_, Nat.le_trans high avoids.1⟩
  · have misses := List.all_eq_true.mp (List.all_eq_true.mp caseRuns_miss r hr) s hs
    have positive : 0x60 < r.lower r.first := by
      rcases avoids.2 (0, 0x60) (by decide) with h | h
      · omega
      · exact h
    rw [Bool.eq_false_iff]
    intro capital
    obtain ⟨⟨first', last'⟩, step'⟩ :
        (s.first ≤ r.lower n ∧ r.lower n ≤ s.last) ∧ (r.lower n - s.first) % s.step = 0 := by
      simpa [contains] using capital
    obtain (apart | apart) | ⟨⟨turns, two⟩, odd⟩ :
        (r.lower r.last < s.first ∨ s.last < r.lower r.first) ∨
          ((r.step = 2 ∨ r.first = r.last) ∧ s.step = 2) ∧
            (r.lower r.first - s.first) % 2 = 1 := by
      simpa [CaseRun.misses] using misses
    · omega
    · omega
    · -- the lower forms are an even number of steps apart from the first of them
      have same : r.lower n = r.lower r.first + (n - r.first) := by
        unfold lower at positive ⊢
        omega
      have even : (n - r.first) % 2 = 0 := by
        rcases turns with two | single
        · rwa [two] at step
        · omega
      rw [two] at step'
      omega
  · rcases avoids.2 g hg with h | h
    · exact .inl (by omega)
    · exact .inr (by omega)

/-! ## Lower-case characters -/

/-- Lower-casing leaves the character as it is. -/
def IsSettled (c : Char) : Prop := c ≠ 'Σ' ∧ lowerChar c = [c]

instance (c : Char) : Decidable (IsSettled c) := inferInstanceAs (Decidable (_ ∧ _))

theorem lowerPoint_of_noCapital {m : Nat} (h : ∀ s ∈ caseRuns, s.contains m = false) :
    lowerPoint m = m := by
  rw [lowerPoint, List.find?_eq_none.mpr (by simpa using h)]

namespace IsLowerForm

variable {m : Nat}

theorem toNat (h : IsLowerForm m) : (Char.ofNat m).toNat = m := by
  have valid : m.isValidChar := by
    have := h.noGap (0xd800, 0xdfff) (by decide)
    have := h.bound
    unfold Nat.isValidChar
    omega
  rw [Char.ofNat, dif_pos valid]
  rfl

theorem isBlank (h : IsLowerForm m) : Text.isBlank (Char.ofNat m) = false := by
  have gaps := h.noGap
  simp only [CaseRun.gaps, List.forall_mem_cons] at gaps
  simp [Text.isBlank, h.toNat]
  omega

theorem isSettled (h : IsLowerForm m) : IsSettled (Char.ofNat m) := by
  have gaps := h.noGap
  simp only [CaseRun.gaps, List.forall_mem_cons] at gaps
  constructor
  · intro sigma
    have m_eq : m = 0x3a3 := by rw [← h.toNat, sigma]; rfl
    have capital : ∃ s ∈ caseRuns, s.contains 0x3a3 = true := by decide +kernel
    obtain ⟨s, hs, contains⟩ := capital
    rw [← m_eq, h.noCapital s hs] at contains
    cases contains
  · unfold lowerChar
    rw [h.toNat]
    split
    next ascii =>
      have small : ∀ n < 0x80, 0x60 < n → (Char.ofNat n).toLower = Char.ofNat n := by decide
      rw [small m ascii (by omega)]
    next =>
      rw [if_neg, lowerPoint_of_noCapital h.noCapital]
      intro dotted
      have : m = 0x130 := by rw [← h.toNat, dotted]; rfl
      omega

end IsLowerForm

/-- What a character becomes stays as it is from then on, and blanks come from blanks only. -/
theorem mem_lowerChar {c d : Char} (hc : c ≠ 'Σ') (hd : d ∈ lowerChar c) :
    IsSettled d ∧ (isBlank d = true → isBlank c = true) := by
  unfold lowerChar at hd
  split at hd
  next ascii =>
    obtain rfl := List.mem_singleton.mp hd
    have table : ∀ n < 0x80, IsSettled (Char.ofNat n).toLower ∧
        (isBlank (Char.ofNat n).toLower = true → isBlank (Char.ofNat n) = true) := by
      decide +kernel
    simpa using table c.toNat ascii
  next other =>
    split at hd
    next dotted =>
      subst dotted
      have small : IsSettled 'i' ∧ (isBlank 'i' = true → isBlank 'İ' = true) := by decide +kernel
      have dot : IsSettled '\u0307' ∧ (isBlank '\u0307' = true → isBlank 'İ' = true) := by
        decide +kernel
      rcases List.mem_cons.mp hd with rfl | hd
      · exact small
      · obtain rfl := List.mem_singleton.mp hd
        exact dot
    next undotted =>
      obtain rfl := List.mem_singleton.mp hd
      cases run : caseRuns.find? (·.contains c.toNat) with
      | none =>
        have same : lowerPoint c.toNat = c.toNat := by rw [lowerPoint, run]
        rw [same, Char.ofNat_toNat]
        refine ⟨⟨hc, ?_⟩, id⟩
        rw [lowerChar, if_neg other, if_neg undotted, same, Char.ofNat_toNat]
      | some r =>
        have form : IsLowerForm (lowerPoint c.toNat) := by
          rw [lowerPoint, run]
          have contains : r.contains c.toNat = true := by simpa using List.find?_some run
          exact CaseRun.lower_isLowerForm (List.mem_of_find?_eq_some run) contains
        exact ⟨form.isSettled, fun blank => by rw [form.isBlank] at blank; cases blank⟩

theorem lowerChar_ne_nil (c : Char) : lowerChar c ≠ [] := by
  unfold lowerChar
  split
  · exact List.cons_ne_nil _ _
  · split <;> exact List.cons_ne_nil _ _

/-! ## Lower-case texts -/

/-- What stands for `c` in the lower form of a text. -/
def lowerAt (before : List Char) (c : Char) (rest : List Char) : List Char :=
  if c = 'Σ' then [lowerSigma before rest] else lowerChar c

theorem lowerFrom_cons (before : List Char) (c : Char) (rest : List Char) :
    lowerFrom before (c :: rest) = lowerAt before c rest ++ lowerFrom (c :: before) rest := rfl

theorem lowerAt_ne_nil (before : List Char) (c : Char) (rest : List Char) :
    lowerAt before c rest ≠ [] := by
  unfold lowerAt
  split
  · exact List.cons_ne_nil _ _
  · exact lowerChar_ne_nil c

theorem mem_lowerAt {before rest : List Char} {c d : Char} (hd : d ∈ lowerAt before c rest) :
    IsSettled d ∧ (isBlank d = true → isBlank c = true) := by
  unfold lowerAt at hd
  split at hd
  next sigma =>
    obtain rfl := List.mem_singleton.mp hd
    have final : IsSettled 'ς' ∧ isBlank 'ς' = false := by decide +kernel
    have inner : IsSettled 'σ' ∧ isBlank 'σ' = false := by decide +kernel
    obtain ⟨settled, plain⟩ :
        IsSettled (lowerSigma before rest) ∧ isBlank (lowerSigma before rest) = false := by
      unfold lowerSigma
      split
      · exact final
      · exact inner
    exact ⟨settled, fun blank => by rw [plain] at blank; cases blank⟩
  next other => exact mem_lowerChar other hd

theorem isSettled_of_mem_lowerFrom {before cs : List Char} :
    ∀ d ∈ lowerFrom before cs, IsSettled d := by
  induction cs generalizing before with
  | nil => exact fun _ hd => absurd hd List.not_mem_nil
  | cons c rest ih =>
    intro d hd
    rcases List.mem_append.mp hd with hd | hd
    · exact (mem_lowerAt hd).1
    · exact ih d hd

theorem lowerFrom_eq_self {before cs : List Char} (h : ∀ c ∈ cs, IsSettled c) :
    lowerFrom before cs = cs := by
  induction cs generalizing before with
  | nil => rfl
  | cons c rest ih =>
    obtain ⟨⟨noSigma, same⟩, others⟩ := List.forall_mem_cons.mp h
    rw [lowerFrom_cons, lowerAt, if_neg noSigma, same, ih others, List.singleton_append]

@[simp] theorem lower_lower (s : String) : lower (lower s) = lower s := by
  rw [lower, lower, String.toList_ofList, lowerFrom_eq_self isSettled_of_mem_lowerFrom]

theorem lowerFrom_eq_nil {before cs : List Char} (h : lowerFrom before cs = []) : cs = [] := by
  cases cs with
  | nil => rfl
  | cons c rest => exact absurd (List.append_eq_nil_iff.mp h).1 (lowerAt_ne_nil before c rest)

/-- The last character comes from the last one. -/
theorem getLast?_lowerFrom {before cs : List Char} {d : Char}
    (h : (lowerFrom before cs).getLast? = some d) :
    ∃ c, cs.getLast? = some c ∧ (isBlank d = true → isBlank c = true) := by
  induction cs generalizing before with
  | nil => cases h
  | cons c rest ih =>
    rw [lowerFrom_cons] at h
    cases last : (lowerFrom (c :: before) rest).getLast? with
    | none =>
      obtain rfl : rest = [] := lowerFrom_eq_nil (List.getLast?_eq_none_iff.mp last)
      rw [List.getLast?_append, last, Option.none_or] at h
      exact ⟨c, rfl, (mem_lowerAt (List.mem_of_getLast? h)).2⟩
    | some e =>
      rw [List.getLast?_append, last, Option.some_or] at h
      obtain rfl := Option.some.inj h
      obtain ⟨c', last', blank⟩ := ih last
      refine ⟨c', ?_, blank⟩
      rw [← List.singleton_append, List.getLast?_append, last', Option.some_or]

theorem IsTrimmedBy.lowerFrom {before cs : List Char} (h : IsTrimmedBy isBlank cs) :
    IsTrimmedBy isBlank (lowerFrom before cs) := by
  constructor
  · cases cs with
    | nil => exact fun _ hd => nomatch hd
    | cons c rest =>
      intro d hd
      obtain ⟨e, first⟩ := Option.ne_none_iff_exists'.mp
        (mt List.head?_eq_none_iff.mp (lowerAt_ne_nil before c rest))
      rw [lowerFrom_cons, List.head?_append, first, Option.some_or] at hd
      obtain rfl := Option.some.inj hd
      have blank := (mem_lowerAt (List.mem_of_head? first)).2
      rw [h.1 c rfl] at blank
      exact Bool.eq_false_iff.mpr fun isBlank => Bool.false_ne_true (blank isBlank)
  · intro d hd
    obtain ⟨c, last, blank⟩ := getLast?_lowerFrom hd
    rw [h.2 c last] at blank
    exact Bool.eq_false_iff.mpr fun isBlank => Bool.false_ne_true (blank isBlank)

theorem trim_lower {s : String} (h : trim s = s) : trim (lower s) = lower s := by
  rw [trim_eq_self_iff, lower, String.toList_ofList]
  exact (trim_eq_self_iff.mp h).lowerFrom

/-- A trimmed text in lower case is as it should be. -/
theorem lower_trim_lower_trim (s : String) : lower (trim (lower (trim s))) = lower (trim s) := by
  rw [trim_lower (trim_trim s), lower_lower]

end LiveLint.Text
