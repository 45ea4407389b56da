import LiveLint.Number.Binary64
import Mathlib.Data.Nat.Log
import Mathlib.Tactic.Linarith
import Mathlib.Tactic.Ring
import Mathlib.Tactic.Positivity
import Mathlib.Tactic.FieldSimp

/-! # The nearest binary number

Rounding gives a number of the format, and it gives a number for whatever is nearer to it than half
the way to its neighbours. Below a power of two the neighbour is nearer than above. -/

namespace LiveLint.Binary64

/-- The numbers of the format: those with a shift have all of their 53 bits. -/
def IsDouble : Binary64 → Prop
  | nan | infinite _ => True
  | finite _ m e => m < 2 ^ 53 ∧ (e = 0 ∨ 2 ^ 52 ≤ m) ∧ e ≤ 2045

/-! ## Rounding to naturals -/

theorem roundDiv_cases (num den : Nat) :
    roundDiv num den = num / den ∨ roundDiv num den = num / den + 1 := by
  unfold roundDiv
  dsimp only
  split
  · exact .inl rfl
  · split
    · exact .inr rfl
    · split
      · exact .inl rfl
      · exact .inr rfl

/-- What is at most a half away is the result, and only even results are exactly a half away. -/
theorem roundDiv_eq {num den n : Nat} (pos : 0 < den) (lower : 2 * (n * den) ≤ 2 * num + den)
    (upper : 2 * num ≤ 2 * (n * den) + den)
    (tie : n % 2 = 1 → 2 * (n * den) ≠ 2 * num + den ∧ 2 * num ≠ 2 * (n * den) + den) :
    roundDiv num den = n := by
  have parts : num = num / den * den + num % den := (Nat.div_add_mod' num den).symm
  have rest : num % den < den := Nat.mod_lt _ pos
  unfold roundDiv
  generalize num / den = q, num % den = r at *
  subst parts
  have near : n = q ∨ n = q + 1 := by
    by_contra away
    rcases Nat.lt_or_ge n q with below | above
    · have : (n + 1) * den ≤ q * den := Nat.mul_le_mul_right _ below
      rw [Nat.add_mul] at this
      omega
    · have : (q + 2) * den ≤ n * den := Nat.mul_le_mul_right _ (by omega)
      rw [Nat.add_mul] at this
      omega
  simp only [beq_iff_eq]
  rcases near with rfl | rfl
  · split
    · rfl
    · rw [if_neg (by omega), if_pos (by omega)]
  · rw [Nat.add_mul] at lower upper tie
    rw [if_neg (by omega)]
    split
    · rfl
    · rw [if_neg (by omega)]

/-! ## The shift -/

/-- The shift that keeps 53 bits of a quotient. -/
def shift (num den : Nat) : Nat := (num / den).log2 - 52

theorem quotient_lt (num den : Nat) : num / den < 2 ^ (shift num den + 53) := by
  have bits : (num / den).log2 < shift num den + 53 := by
    unfold shift
    omega
  exact Nat.lt_of_lt_of_le Nat.lt_log2_self (Nat.pow_le_pow_right (by decide) bits)

theorem le_quotient {num den : Nat} (h : 0 < shift num den) :
    2 ^ (shift num den + 52) ≤ num / den := by
  have bits : shift num den + 52 = (num / den).log2 := by
    unfold shift at *
    omega
  have filled : num / den ≠ 0 := by
    intro zero
    rw [shift, zero] at h
    exact absurd h (by decide)
  rw [bits]
  exact Nat.log2_self_le filled

theorem shift_eq {num den e : Nat} (lower : 2 ^ (e + 52) ≤ num / den)
    (upper : num / den < 2 ^ (e + 53)) : shift num den = e := by
  have filled : num / den ≠ 0 := Nat.ne_of_gt (Nat.lt_of_lt_of_le (Nat.two_pow_pos _) lower)
  have : e + 52 ≤ (num / den).log2 := (Nat.le_log2 filled).mpr lower
  have : (num / den).log2 < e + 53 := (Nat.log2_lt filled).mpr upper
  unfold shift
  omega

theorem shift_eq_zero {num den : Nat} (upper : num / den < 2 ^ 53) : shift num den = 0 := by
  by_contra positive
  have := le_quotient (Nat.pos_of_ne_zero positive)
  have : 2 ^ 53 ≤ 2 ^ (shift num den + 52) := Nat.pow_le_pow_right (by decide) (by omega)
  omega

theorem ofUnits_eq (negative : Bool) (num den : Nat) :
    ofUnits negative num den =
      let m := roundDiv num (den * 2 ^ shift num den)
      if m = 2 ^ 53 then
        if 2045 < shift num den + 1 then infinite negative
        else finite negative (2 ^ 52) (shift num den + 1)
      else if 2045 < shift num den then infinite negative
      else finite negative m (shift num den) := by
  unfold ofUnits shift
  simp only [Nat.pow_eq, beq_iff_eq]
  split <;> rfl

theorem isDouble_ofUnits (negative : Bool) (num den : Nat) :
    (ofUnits negative num den).IsDouble := by
  have quotient : num / (den * 2 ^ shift num den) = num / den / 2 ^ shift num den :=
    (Nat.div_div_eq_div_mul _ _ _).symm
  have upper : num / (den * 2 ^ shift num den) < 2 ^ 53 := by
    rw [quotient, Nat.div_lt_iff_lt_mul (Nat.two_pow_pos _), ← Nat.pow_add, Nat.add_comm 53]
    exact quotient_lt num den
  have lower : 0 < shift num den → 2 ^ 52 ≤ num / (den * 2 ^ shift num den) := by
    intro positive
    rw [quotient, Nat.le_div_iff_mul_le (Nat.two_pow_pos _), ← Nat.pow_add, Nat.add_comm 52]
    exact le_quotient positive
  have rounded := roundDiv_cases num (den * 2 ^ shift num den)
  rw [ofUnits_eq]
  dsimp only
  split
  · split
    · trivial
    next small => exact ⟨by decide, .inr (Nat.le_refl _), by omega⟩
  · split
    · trivial
    next full small =>
      refine ⟨by omega, ?_, by omega⟩
      rcases Nat.eq_zero_or_pos (shift num den) with zero | positive
      · exact .inl zero
      · have := lower positive
        exact .inr (by omega)

theorem isDouble_ofDecimal (negative : Bool) (digits count : Nat) (exponent : Int) :
    (ofDecimal negative digits count exponent).IsDouble := by
  unfold ofDecimal
  split
  · exact ⟨by decide, .inl rfl, by decide⟩
  · split
    · trivial
    · split
      · exact isDouble_ofUnits _ _ _
      · exact isDouble_ofUnits _ _ _

/-! ## What rounds to a number -/

/-- The way to the number below, in quarters of the last place; it is only half as long from the
least number of a shift. -/
def gapBelow (m e : Nat) : Nat := if m = 2 ^ 52 ∧ 0 < e then 1 else 2

/-- At most half the way to the neighbours of `m · 2 ^ e` units. The ends count if `m` is even. -/
structure Near (m e : Nat) (units : ℚ) : Prop where
  lower : (4 * m - gapBelow m e) * 2 ^ e ≤ 4 * units
  upper : 4 * units ≤ (4 * m + 2) * 2 ^ e
  tie : m % 2 = 1 → (4 * m - gapBelow m e) * 2 ^ e < 4 * units ∧ 4 * units < (4 * m + 2) * 2 ^ e

/-- The same for a fraction, without division: `d` is the denominator in the last place. -/
structure NearRatio (m e num d : Nat) : Prop where
  lower : 4 * (m * d) ≤ 4 * num + gapBelow m e * d
  upper : 4 * num ≤ 4 * (m * d) + 2 * d
  tie : m % 2 = 1 → 4 * (m * d) < 4 * num + gapBelow m e * d ∧ 4 * num < 4 * (m * d) + 2 * d

theorem Near.ratio {m e num den : Nat} (pos : 0 < den) (h : Near m e ((num : ℚ) / den)) :
    NearRatio m e num (den * 2 ^ e) := by
  have pos : (0 : ℚ) < den := by exact_mod_cast pos
  have quarters : 4 * ((num : ℚ) / den) = 4 * num / den := by ring
  obtain ⟨lower, upper, tie⟩ := h
  rw [quarters] at lower upper tie
  rw [le_div_iff₀ pos] at lower
  rw [div_le_iff₀ pos] at upper
  rw [lt_div_iff₀ pos, div_lt_iff₀ pos] at tie
  constructor
  · have : (4 * (m * (den * 2 ^ e)) : ℚ) ≤ 4 * num + gapBelow m e * (den * 2 ^ e) := by linarith
    exact_mod_cast this
  · have : (4 * num : ℚ) ≤ 4 * (m * (den * 2 ^ e)) + 2 * (den * 2 ^ e) := by linarith
    exact_mod_cast this
  · intro odd
    obtain ⟨lower, upper⟩ := tie odd
    constructor
    · have : (4 * (m * (den * 2 ^ e)) : ℚ) < 4 * num + gapBelow m e * (den * 2 ^ e) := by linarith
      exact_mod_cast this
    · have : (4 * num : ℚ) < 4 * (m * (den * 2 ^ e)) + 2 * (den * 2 ^ e) := by linarith
      exact_mod_cast this

section

variable {m e num den : Nat}

theorem gapBelow_le (m e : Nat) : gapBelow m e ≤ 2 := by
  unfold gapBelow
  split <;> omega

/-- In the number's own shift, it is what the fraction rounds to. -/
theorem NearRatio.roundDiv_eq {d : Nat} (h : NearRatio m e num d) (pos : 0 < d) :
    roundDiv num d = m := by
  obtain ⟨lower, upper, tie⟩ := h
  have gap : gapBelow m e * d ≤ 2 * d := Nat.mul_le_mul_right _ (gapBelow_le m e)
  apply Binary64.roundDiv_eq pos
  · omega
  · omega
  · intro odd
    have := tie odd
    omega

theorem NearRatio.quotient_lt (h : NearRatio m e num (den * 2 ^ e)) (pos : 0 < den)
    (bits : m < 2 ^ 53) : num / den < 2 ^ (e + 53) := by
  have unit : 0 < den * 2 ^ e := Nat.mul_pos pos (Nat.two_pow_pos e)
  have whole : (m + 1) * (den * 2 ^ e) ≤ 2 ^ 53 * (den * 2 ^ e) := Nat.mul_le_mul_right _ bits
  have whole_eq : 2 ^ 53 * (den * 2 ^ e) = 2 ^ (e + 53) * den := by ring
  have upper := h.upper
  rw [Nat.add_mul] at whole
  rw [Nat.div_lt_iff_lt_mul pos]
  omega

/-- A fraction below the power of two that the number is: it has the shift below, where it rounds
up to that power. -/
theorem NearRatio.below_power (h : NearRatio m (e + 1) num (den * 2 ^ (e + 1))) (pos : 0 < den)
    (full : 2 ^ 52 ≤ m) (below : num / den < 2 ^ (e + 1 + 52)) :
    m = 2 ^ 52 ∧ shift num den = e ∧ roundDiv num (den * 2 ^ e) = 2 ^ 53 := by
  have unit : 0 < den * 2 ^ e := Nat.mul_pos pos (Nat.two_pow_pos e)
  have twice : den * 2 ^ (e + 1) = 2 * (den * 2 ^ e) := by ring
  have power : 2 ^ (e + 1 + 52) * den = 2 ^ 53 * (den * 2 ^ e) := by ring
  obtain ⟨lower, upper, tie⟩ := h
  rw [Nat.div_lt_iff_lt_mul pos, power] at below
  rw [twice] at lower
  have least : m = 2 ^ 52 := by
    have gap : gapBelow m (e + 1) * (2 * (den * 2 ^ e)) ≤ 2 * (2 * (den * 2 ^ e)) :=
      Nat.mul_le_mul_right _ (gapBelow_le m (e + 1))
    by_contra more
    have : (2 ^ 52 + 1) * (2 * (den * 2 ^ e)) ≤ m * (2 * (den * 2 ^ e)) :=
      Nat.mul_le_mul_right _ (by omega)
    omega
  subst least
  have gap : gapBelow (2 ^ 52) (e + 1) = 1 := if_pos ⟨rfl, Nat.succ_pos e⟩
  rw [gap] at lower
  refine ⟨rfl, shift_eq ?_ ?_, ?_⟩
  · rw [Nat.le_div_iff_mul_le pos]
    have : 2 ^ (e + 52) * den = 2 ^ 52 * (den * 2 ^ e) := by ring
    omega
  · rw [Nat.div_lt_iff_lt_mul pos]
    have : 2 ^ (e + 53) * den = 2 ^ 53 * (den * 2 ^ e) := by ring
    omega
  · apply Binary64.roundDiv_eq unit
    · omega
    · omega
    · omega

/-- A number is the rounded form of whatever is near to it. -/
theorem ofUnits_near {negative : Bool} (double : (finite negative m e).IsDouble) (pos : 0 < den)
    (near : Near m e ((num : ℚ) / den)) : ofUnits negative num den = finite negative m e := by
  obtain ⟨bits, full, small⟩ := double
  have near := near.ratio pos
  have own (shifted : shift num den = e) : ofUnits negative num den = finite negative m e := by
    rw [ofUnits_eq, shifted, near.roundDiv_eq (Nat.mul_pos pos (Nat.two_pow_pos e))]
    dsimp only
    rw [if_neg (Nat.ne_of_lt bits), if_neg (by omega)]
  have upper := near.quotient_lt pos bits
  cases e with
  | zero => exact own (shift_eq_zero upper)
  | succ e =>
    have full : 2 ^ 52 ≤ m := full.resolve_left (Nat.succ_ne_zero e)
    by_cases reached : 2 ^ (e + 1 + 52) ≤ num / den
    · exact own (shift_eq reached upper)
    · obtain ⟨rfl, shifted, rounded⟩ := near.below_power pos full (Nat.lt_of_not_le reached)
      rw [ofUnits_eq, shifted, rounded]
      dsimp only
      rw [if_pos rfl, if_neg (by omega)]

end

end LiveLint.Binary64
