import LiveLint.Number.Decimal
import LiveLint.Proofs.Number.Digits
import LiveLint.Proofs.Number.Nearest
import Mathlib.Algebra.Order.Field.Power
import Mathlib.Tactic.NormNum

/-! # The shortest digits

Some number of seventeen digits is always near enough to a binary number to be rounded to it, so
there are shortest digits, and they are rounded back to the number that they were made from. -/

namespace LiveLint

namespace Binary64

/-! ## Decimal numbers near to binary ones -/

theorem pow_cast (base n : Nat) : ((Nat.pow base n : Nat) : ℚ) = base ^ n := by
  rw [Nat.pow_eq, Nat.cast_pow]

theorem scale_eq : scale = 2 ^ 1074 := Nat.pow_eq

theorem scale_pos : 0 < scale := by
  rw [scale_eq]
  exact Nat.two_pow_pos 1074

theorem scale_cast : (scale : ℚ) = 2 ^ 1074 := by
  rw [scale_eq, Nat.cast_pow, Nat.cast_ofNat]

/-- The units in a decimal number. -/
def decimalUnits (digits : Nat) (exponent : Int) : ℚ := digits * 10 ^ exponent * 2 ^ 1074

section

variable {negative : Bool} {m e digits count : Nat} {exponent : Int} {units : ℚ}

theorem Near.half_le (h : Near m e units) (positive : 0 < m) : 1 / 2 ≤ units := by
  have one : (1 : ℚ) ≤ m := by exact_mod_cast positive
  have gap : (gapBelow m e : ℚ) ≤ 2 := by exact_mod_cast gapBelow_le m e
  have place : (1 : ℚ) ≤ 2 ^ e := one_le_pow₀ (by norm_num)
  have least : (2 : ℚ) * 1 ≤ (4 * m - gapBelow m e) * 2 ^ e :=
    mul_le_mul (by linarith) place (by norm_num) (by linarith)
  linarith [h.lower]

theorem Near.lt_limit (h : Near m e units) (double : (finite negative m e).IsDouble) :
    units < 2 ^ 2098 := by
  obtain ⟨bits, -, small⟩ := double
  have whole : (m : ℚ) + 1 ≤ 2 ^ 53 := by exact_mod_cast bits
  have unit : (0 : ℚ) < 2 ^ e := by positivity
  have upper : units < (m + 1) * 2 ^ e := by linarith [h.upper]
  calc units < (m + 1) * 2 ^ e := upper
    _ ≤ 2 ^ 53 * 2 ^ e := mul_le_mul_of_nonneg_right whole unit.le
    _ = 2 ^ (53 + e) := (pow_add 2 53 e).symm
    _ ≤ 2 ^ 2098 := pow_le_pow_right₀ (by norm_num) (by omega)

theorem digits_ne_zero (h : 1 / 2 ≤ decimalUnits digits exponent) : digits ≠ 0 := by
  rintro rfl
  norm_num [decimalUnits] at h

theorem pow_lt_ten {n : Nat} (h : n ≤ 1203) : (2 : ℚ) ^ n < 10 ^ 401 :=
  calc (2 : ℚ) ^ n ≤ 2 ^ (3 * 401) := pow_le_pow_right₀ (by norm_num) h
    _ = (2 ^ 3) ^ 401 := pow_mul 2 3 401
    _ < 10 ^ 401 := pow_lt_pow_left₀ (by norm_num) (by norm_num) (by decide)

/-- Numbers that are not rounded to zero are not so small that they need not be computed. -/
theorem exponent_ge (h : 1 / 2 ≤ decimalUnits digits exponent) (fits : digits < 10 ^ count) :
    -400 ≤ exponent + count := by
  by_contra small
  have fits : (digits : ℚ) ≤ 10 ^ count := by exact_mod_cast fits.le
  have least : -((401 : Nat) : Int) = -401 := rfl
  have power : (10 : ℚ) ^ (exponent + count) ≤ 10 ^ (-((401 : Nat) : Int)) :=
    zpow_le_zpow_right₀ (by norm_num) (by omega)
  have bound : decimalUnits digits exponent ≤ 10 ^ (-((401 : Nat) : Int)) * 2 ^ 1074 := by
    unfold decimalUnits
    refine mul_le_mul_of_nonneg_right (le_trans ?_ power) (by positivity)
    rw [zpow_add₀ (by norm_num), zpow_natCast, mul_comm]
    exact mul_le_mul_of_nonneg_left fits (by positivity)
  have tiny : (10 : ℚ) ^ (-((401 : Nat) : Int)) * 2 ^ 1074 < 1 / 2 := by
    rw [zpow_neg, zpow_natCast, inv_mul_lt_iff₀ (by positivity), mul_one_div,
      lt_div_iff₀ (by norm_num), ← pow_succ]
    exact pow_lt_ten (by decide)
  exact absurd (lt_of_le_of_lt (le_trans h bound) tiny) (lt_irrefl _)

/-- Numbers below the limit are not so large that they need not be computed. -/
theorem exponent_le (h : decimalUnits digits exponent < 2 ^ 2098) (filled : digits ≠ 0) :
    exponent ≤ 400 := by
  by_contra large
  have one : (1 : ℚ) ≤ digits := by exact_mod_cast Nat.one_le_iff_ne_zero.mpr filled
  have power : (10 : ℚ) ^ ((401 : Nat) : Int) ≤ 10 ^ exponent :=
    zpow_le_zpow_right₀ (by norm_num) (by omega)
  rw [zpow_natCast] at power
  have bound : 10 ^ 401 * 2 ^ 1074 ≤ decimalUnits digits exponent := by
    unfold decimalUnits
    refine mul_le_mul_of_nonneg_right (le_trans power ?_) (by positivity)
    exact le_mul_of_one_le_left (by positivity) one
  have huge : (2 : ℚ) ^ 2098 < 10 ^ 401 * 2 ^ 1074 := by
    have parts : (2 : ℚ) ^ 2098 = 2 ^ 1024 * 2 ^ 1074 := pow_add 2 1024 1074
    rw [parts]
    exact mul_lt_mul_of_pos_right (pow_lt_ten (by decide)) (by positivity)
  exact absurd (lt_trans (lt_of_lt_of_le huge bound) h) (lt_irrefl _)

theorem ofDecimal_near (positive : 0 < m) (double : (finite negative m e).IsDouble)
    (fits : digits < 10 ^ count) (near : Near m e (decimalUnits digits exponent)) :
    ofDecimal negative digits count exponent = finite negative m e := by
  have filled := digits_ne_zero (near.half_le positive)
  have least := exponent_ge (near.half_le positive) fits
  have greatest := exponent_le (near.lt_limit double) filled
  unfold ofDecimal
  rw [if_neg (by simp [filled, least]), if_neg (by omega)]
  split
  next whole =>
    obtain ⟨n, rfl⟩ := Int.eq_ofNat_of_zero_le whole
    have ratio : ((digits * Nat.pow 10 n * scale : Nat) : ℚ) / (1 : Nat) =
        decimalUnits digits n := by
      rw [decimalUnits, zpow_natCast, Nat.cast_mul, scale_cast, Nat.cast_mul, pow_cast,
        Nat.cast_ofNat, Nat.cast_one, div_one]
    exact ofUnits_near double Nat.one_pos (ratio ▸ near)
  next fraction =>
    obtain ⟨n, rfl⟩ : ∃ n : Nat, exponent = -n := ⟨exponent.natAbs, by omega⟩
    have power : Nat.pow 10 (-(-(n : Int))).toNat = 10 ^ n := by
      rw [Int.neg_neg, Int.toNat_natCast, Nat.pow_eq]
    have ratio : ((digits * scale : Nat) : ℚ) / (10 ^ n : Nat) = decimalUnits digits (-n) := by
      rw [decimalUnits, zpow_neg, zpow_natCast, Nat.cast_mul, scale_cast, Nat.cast_pow,
        Nat.cast_ofNat, mul_right_comm, div_eq_mul_inv]
    rw [power]
    exact ofUnits_near double (by positivity) (ratio ▸ near)

end

end Binary64

namespace Decimal
open Binary64

/-! ## Candidates -/

/-- The value of `c` units of `10 ^ k`, in quarters of binary units. -/
def quarters (c : Nat) (k : Int) : ℚ := 4 * decimalUnits c k

theorem quarters_eq (c : Nat) (k : Int) : quarters c k = c * 10 ^ k * (4 * scale : Nat) := by
  rw [quarters, decimalUnits, Nat.cast_mul, scale_cast, Nat.cast_ofNat, mul_left_comm]

theorem inPower_pos (x : Nat) {den : Nat} (pos : 0 < den) (k : Int) : 0 < (inPower x den k).2 := by
  unfold inPower
  split
  · exact Nat.mul_pos pos (Nat.pow_pos (by decide))
  · exact pos

/-- Values on a grid are compared as fractions, which are all in the same proportion to them. -/
theorem inPower_scaled (den : Nat) (k : Int) :
    ∃ f : ℚ, 0 < f ∧ ∀ x c : Nat, ((inPower x den k).1 : ℚ) = x * f ∧
      (c * (inPower x den k).2 : ℚ) = c * 10 ^ k * den * f := by
  by_cases whole : 0 ≤ k
  · obtain ⟨n, rfl⟩ := Int.eq_ofNat_of_zero_le whole
    refine ⟨1, one_pos, fun x c => ⟨?_, ?_⟩⟩
    · rw [inPower, if_pos whole, mul_one]
    · rw [inPower, if_pos whole, Int.toNat_natCast, zpow_natCast, Nat.cast_mul, pow_cast,
        Nat.cast_ofNat]
      ring
  · obtain ⟨n, rfl⟩ : ∃ n : Nat, k = -n := ⟨k.natAbs, by omega⟩
    refine ⟨10 ^ n, by positivity, fun x c => ⟨?_, ?_⟩⟩
    · rw [inPower, if_neg whole, Int.neg_neg, Int.toNat_natCast, Nat.cast_mul, pow_cast,
        Nat.cast_ofNat]
    · rw [inPower, if_neg whole, zpow_neg, zpow_natCast]
      field_simp

theorem scaled_le_iff {a b : Nat} {x y f : ℚ} (pos : 0 < f) (ha : (a : ℚ) = x * f)
    (hb : (b : ℚ) = y * f) : a ≤ b ↔ x ≤ y := by
  rw [← mul_le_mul_iff_left₀ pos, ← ha, ← hb, Nat.cast_le]

theorem scaled_lt_iff {a b : Nat} {x y f : ℚ} (pos : 0 < f) (ha : (a : ℚ) = x * f)
    (hb : (b : ℚ) = y * f) : a < b ↔ x < y := by
  rw [← mul_lt_mul_iff_left₀ pos, ← ha, ← hb, Nat.cast_lt]

/-- Between two ends, which count if the interval is closed. -/
def Within (low high : ℚ) (closed : Bool) (value : ℚ) : Prop :=
  if closed then low ≤ value ∧ value ≤ high else low < value ∧ value < high

/-- The comparisons by which a candidate is accepted. -/
def accepts (v below above : Nat) (closed : Bool) (k : Int) (c : Nat) : Bool :=
  let (lowNum, lowDen) := inPower (v - below) (4 * scale) k
  let (highNum, highDen) := inPower (v + above) (4 * scale) k
  if closed then lowNum ≤ c * lowDen && c * highDen ≤ highNum
  else lowNum < c * lowDen && c * highDen < highNum

theorem accepts_iff {v below above : Nat} {closed : Bool} {k : Int} {c : Nat} :
    accepts v below above closed k c ↔
      Within (v - below : Nat) (v + above : Nat) closed (quarters c k) := by
  obtain ⟨f, pos, scaled⟩ := inPower_scaled (4 * scale) k
  obtain ⟨low, lowBound⟩ := scaled (v - below) c
  obtain ⟨high, highBound⟩ := scaled (v + above) c
  rw [← quarters_eq, ← Nat.cast_mul] at lowBound highBound
  unfold accepts Within
  cases closed with
  | true =>
    simp only [if_true, Bool.and_eq_true, decide_eq_true_eq]
    rw [scaled_le_iff pos low lowBound, scaled_le_iff pos highBound high]
  | false =>
    simp only [Bool.false_eq_true, if_false, Bool.and_eq_true, decide_eq_true_eq]
    rw [scaled_lt_iff pos low lowBound, scaled_lt_iff pos highBound high]

/-- The point of a grid that is nearer, the even one of two. -/
def nearest (num den : Nat) : Nat :=
  if 2 * (num % den) < den || (2 * (num % den) == den && num / den % 2 == 0) then num / den
  else num / den + 1

theorem nearest_near (num : Nat) {den : Nat} (pos : 0 < den) :
    2 * (nearest num den * den) ≤ 2 * num + den ∧ 2 * num ≤ 2 * (nearest num den * den) + den := by
  have parts : num = num / den * den + num % den := (Nat.div_add_mod' num den).symm
  have rest : num % den < den := Nat.mod_lt _ pos
  unfold nearest
  generalize num / den = q, num % den = r at *
  split
  next lower =>
    simp only [Bool.or_eq_true, decide_eq_true_eq, Bool.and_eq_true, beq_iff_eq] at lower
    omega
  next upper =>
    simp only [Bool.or_eq_true, decide_eq_true_eq, Bool.and_eq_true, beq_iff_eq] at upper
    rw [Nat.add_mul]
    omega

/-- The nearest point of a grid is at most half a step away. -/
theorem quarters_nearest (v : Nat) (k : Int) :
    let c := nearest (inPower v (4 * scale) k).1 (inPower v (4 * scale) k).2
    2 * quarters c k ≤ 2 * v + quarters 1 k ∧ 2 * v ≤ 2 * quarters c k + quarters 1 k := by
  intro c
  obtain ⟨f, pos, scaled⟩ := inPower_scaled (4 * scale) k
  obtain ⟨num, den⟩ := scaled v c
  obtain ⟨-, one⟩ := scaled v 1
  rw [← quarters_eq] at den one
  rw [Nat.cast_one, one_mul] at one
  have positive : 0 < 4 * scale := Nat.mul_pos (by decide) scale_pos
  obtain ⟨lower, upper⟩ :=
    nearest_near (inPower v (4 * scale) k).1 (inPower_pos v positive k)
  have lower : (2 * (c * (inPower v (4 * scale) k).2) : ℚ) ≤
      2 * (inPower v (4 * scale) k).1 + (inPower v (4 * scale) k).2 := by exact_mod_cast lower
  have upper : (2 * (inPower v (4 * scale) k).1 : ℚ) ≤
      2 * (c * (inPower v (4 * scale) k).2) + (inPower v (4 * scale) k).2 := by exact_mod_cast upper
  rw [num, den, one] at lower upper
  constructor
  · rw [← mul_le_mul_iff_left₀ pos]
    linarith only [lower]
  · rw [← mul_le_mul_iff_left₀ pos]
    linarith only [upper]

theorem candidate?_eq (v below above : Nat) (closed : Bool) (k : Int) :
    ∃ other, candidate? v below above closed k =
      let nearer := nearest (inPower v (4 * scale) k).1 (inPower v (4 * scale) k).2
      if accepts v below above closed k nearer then some nearer
      else if accepts v below above closed k other then some other else none := ⟨_, rfl⟩

theorem candidate?_within {v below above c : Nat} {closed : Bool} {k : Int}
    (h : candidate? v below above closed k = some c) :
    Within (v - below : Nat) (v + above : Nat) closed (quarters c k) := by
  obtain ⟨other, eq⟩ := candidate?_eq v below above closed k
  rw [eq] at h
  dsimp only at h
  split at h
  next accepted => exact accepts_iff.mp (Option.some.inj h ▸ accepted)
  · split at h
    next accepted => exact accepts_iff.mp (Option.some.inj h ▸ accepted)
    · cases h

/-- There is a candidate on each grid whose steps are short enough. -/
theorem candidate?_isSome {v below above : Nat} {k : Int} (closed : Bool) (reach : below ≤ v)
    (fine : quarters 1 k < 2 * below) (fine' : quarters 1 k < 2 * above) :
    ∃ c, candidate? v below above closed k = some c := by
  obtain ⟨lower, upper⟩ := quarters_nearest v k
  have inside : accepts v below above closed k
      (nearest (inPower v (4 * scale) k).1 (inPower v (4 * scale) k).2) := by
    rw [accepts_iff, Within, Nat.cast_sub reach, Nat.cast_add]
    split
    · exact ⟨by linarith, by linarith⟩
    · exact ⟨by linarith, by linarith⟩
  obtain ⟨other, eq⟩ := candidate?_eq v below above closed k
  exact ⟨_, eq.trans (if_pos inside)⟩

/-! ## Grids -/

theorem scale_le : scale ≤ 10 ^ 400 := by
  rw [scale_eq]
  calc 2 ^ 1074 ≤ 2 ^ (3 * 400) := Nat.pow_le_pow_right (by decide) (by decide)
    _ = (2 ^ 3) ^ 400 := Nat.pow_mul 2 3 400
    _ ≤ 10 ^ 400 := Nat.pow_le_pow_left (by decide) 400

/-- The power of the first digit is not more than the value. -/
theorem leadingPower_le {num den : Nat} (pos : 0 < den) (visible : den ≤ num * 10 ^ 400) :
    (10 : ℚ) ^ leadingPower num den * den ≤ num := by
  have first : 10 ^ (digitCount (num * 10 ^ 400 / den) - 1) ≤ num * 10 ^ 400 / den :=
    Text.pow_length_digitsOfNat_le (Nat.div_pos visible pos)
  have first : 10 ^ (digitCount (num * 10 ^ 400 / den) - 1) * den ≤ num * 10 ^ 400 :=
    (Nat.le_div_iff_mul_le pos).mp first
  have count : 0 < digitCount (num * 10 ^ 400 / den) := Text.length_digitsOfNat_pos _
  have power : leadingPower num den =
      ((digitCount (num * 10 ^ 400 / den) - 1 : Nat) : Int) - (400 : Nat) := by
    rw [leadingPower, Nat.pow_eq]
    omega
  have first : (10 : ℚ) ^ (digitCount (num * 10 ^ 400 / den) - 1) * den ≤ num * 10 ^ 400 := by
    exact_mod_cast first
  rw [power, zpow_sub₀ (by norm_num), zpow_natCast, zpow_natCast, div_mul_eq_mul_div,
    div_le_iff₀ (by positivity)]
  exact first

/-- The steps of the finest grid are shorter than the reach of a number on either side. -/
theorem finest_grid {v : Nat} (visible : 4 ≤ v) {reach : ℚ} (h : v < reach * 10 ^ 16) :
    quarters 1 (leadingPower v (4 * scale) - (16 : Nat)) < reach := by
  have positive : 0 < 4 * scale := Nat.mul_pos (by decide) scale_pos
  have first := leadingPower_le positive (Nat.mul_le_mul visible scale_le)
  have step : quarters 1 (leadingPower v (4 * scale) - (16 : Nat)) * 10 ^ 16 =
      10 ^ leadingPower v (4 * scale) * (4 * scale : Nat) := by
    rw [quarters_eq, zpow_sub₀ (by norm_num), Nat.cast_one, one_mul, zpow_natCast]
    field_simp
  rw [← step] at first
  exact lt_of_mul_lt_mul_right (lt_of_le_of_lt first h) (by norm_num)

/-- A candidate for `m · 2 ^ e` units. -/
def Candidate (m e n : Nat) (k : Int) : Prop :=
  candidate? (4 * (m * 2 ^ e)) (gapBelow m e * 2 ^ e) (2 * 2 ^ e) (m % 2 == 0) k = some n

theorem shortest_eq (m e : Nat) :
    shortest m e = ofCandidate? ((grids (4 * (m * 2 ^ e))).findSome? fun k =>
      (candidate? (4 * (m * 2 ^ e)) (gapBelow m e * 2 ^ e) (2 * 2 ^ e) (m % 2 == 0) k).map
        (·, k)) := by
  have below : (if m == Nat.pow 2 52 && decide (0 < e) then Nat.pow 2 e else 2 * Nat.pow 2 e) =
      gapBelow m e * 2 ^ e := by
    simp only [Nat.pow_eq, Bool.and_eq_true, beq_iff_eq, decide_eq_true_eq, gapBelow]
    split
    · rw [Nat.one_mul]
    · rfl
  rw [shortest, below]
  simp only [Nat.pow_eq]

/-- The shortest digits are those of a candidate, if there is any. -/
theorem shortest_of_candidate {m e n : Nat} {k : Int} (tried : k ∈ grids (4 * (m * 2 ^ e)))
    (h : Candidate m e n k) : ∃ n k, Candidate m e n k ∧ shortest m e = ofNatPower n k := by
  rw [shortest_eq]
  generalize found : (grids (4 * (m * 2 ^ e))).findSome? _ = result
  cases result with
  | some p =>
    obtain ⟨k', -, found⟩ := List.exists_of_findSome?_eq_some found
    obtain ⟨n, candidate, rfl⟩ := Option.map_eq_some_iff.mp found
    exact ⟨n, k', candidate, rfl⟩
  | none =>
    have missing := List.findSome?_eq_none_iff.mp found k tried
    exact absurd (h.symm.trans (Option.map_eq_none_iff.mp missing)) (Option.some_ne_none n)

/-- A candidate is near to the number that it was found for. -/
theorem candidate?_near {m e n : Nat} {k : Int} (positive : 0 < m)
    (h : Candidate m e n k) : Near m e (decimalUnits n k) := by
  have inside := candidate?_within h
  have reach : gapBelow m e * 2 ^ e ≤ 4 * (m * 2 ^ e) := by
    rw [← Nat.mul_assoc]
    exact Nat.mul_le_mul_right _ (Nat.le_trans (gapBelow_le m e) (by omega))
  have low : ((4 * (m * 2 ^ e) - gapBelow m e * 2 ^ e : Nat) : ℚ) =
      (4 * m - gapBelow m e) * 2 ^ e := by
    rw [Nat.cast_sub reach]
    push_cast
    ring
  have high : ((4 * (m * 2 ^ e) + 2 * 2 ^ e : Nat) : ℚ) = (4 * m + 2) * 2 ^ e := by
    push_cast
    ring
  rw [low, high, quarters, Within] at inside
  split at inside
  next even =>
    refine ⟨inside.1, inside.2, fun odd => ?_⟩
    rw [beq_iff_eq] at even
    omega
  · exact ⟨inside.1.le, inside.2.le, fun _ => inside⟩

/-- There is a candidate on the finest grid. -/
theorem finest_candidate {m e : Nat} (positive : 0 < m) (bits : m < 2 ^ 53) :
    ∃ n, Candidate m e n (leadingPower (4 * (m * 2 ^ e)) (4 * scale) - (16 : Nat)) := by
  have place : 0 < 2 ^ e := Nat.two_pow_pos e
  have visible : 4 ≤ 4 * (m * 2 ^ e) := Nat.le_mul_of_pos_right 4 (Nat.mul_pos positive place)
  have reach : gapBelow m e * 2 ^ e ≤ 4 * (m * 2 ^ e) := by
    rw [← Nat.mul_assoc]
    exact Nat.mul_le_mul_right _ (Nat.le_trans (gapBelow_le m e) (by omega))
  have below : 4 * m < 2 * gapBelow m e * 10 ^ 16 := by
    unfold gapBelow
    split <;> omega
  have above : 4 * m < 2 * 2 * 10 ^ 16 := by linarith
  have scaled {gap : Nat} (h : 4 * m < 2 * gap * 10 ^ 16) :
      ((4 * (m * 2 ^ e) : Nat) : ℚ) < 2 * (gap * 2 ^ e : Nat) * 10 ^ 16 := by
    have unit : (0 : ℚ) < 2 ^ e := by positivity
    have h : (4 * m : ℚ) < 2 * gap * 10 ^ 16 := by exact_mod_cast h
    have h : (4 * m * 2 ^ e : ℚ) < 2 * gap * 10 ^ 16 * 2 ^ e := mul_lt_mul_of_pos_right h unit
    push_cast
    linarith only [h]
  exact candidate?_isSome _ reach (finest_grid visible (scaled below))
    (finest_grid visible (scaled above))

/-- The shortest digits are near to the number that they were made from. -/
theorem shortest_near {m e : Nat} (positive : 0 < m) (bits : m < 2 ^ 53) :
    ∃ n k, shortest m e = ofNatPower n k ∧ Near m e (decimalUnits n k) := by
  obtain ⟨n, found⟩ := finest_candidate (e := e) positive bits
  obtain ⟨n, k, found, eq⟩ := shortest_of_candidate (List.mem_map.mpr ⟨16, by decide, rfl⟩) found
  exact ⟨n, k, eq, candidate?_near positive found⟩

end Decimal
end LiveLint
