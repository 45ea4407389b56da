import LiveLint.Text.DecimalDigit
import Mathlib.Tactic.Ring

/-! # Decimal digits

The digits of a natural number are ASCII digits that write it, and no number has fewer: the first
one is a zero for zero only. Zeros in front change nothing, and each further digit makes the number
ten times as large. -/

namespace LiveLint.Text

theorem isAsciiDigit_iff {c : Char} : isAsciiDigit c ↔ c.isDigit = true := by
  simp only [isAsciiDigit, Bool.and_eq_true, decide_eq_true_eq, Char.isDigit_iff_toNat]
  exact Iff.rfl

/-! ## The number that digits write -/

theorem natOfDigits_cons (c : Char) (cs : List Char) :
    natOfDigits (c :: cs) = (c.toNat - 48) * 10 ^ cs.length + natOfDigits cs := by
  rw [natOfDigits, Nat.ofDigitChars_cons, Nat.ofDigitChars_eq_ofDigitChars_zero]
  show 10 ^ cs.length * (10 * 0 + (c.toNat - 48)) + _ = _
  rw [Nat.mul_zero, Nat.zero_add, Nat.mul_comm]
  rfl

theorem natOfDigits_append (xs ys : List Char) :
    natOfDigits (xs ++ ys) = natOfDigits xs * 10 ^ ys.length + natOfDigits ys := by
  rw [natOfDigits, Nat.ofDigitChars_append, Nat.ofDigitChars_eq_ofDigitChars_zero, Nat.mul_comm]
  rfl

theorem natOfDigits_zeros (n : Nat) : natOfDigits (List.replicate n '0') = 0 :=
  Nat.ofDigitChars_replicate_zero

theorem natOfDigits_append_zeros (cs : List Char) (n : Nat) :
    natOfDigits (cs ++ List.replicate n '0') = natOfDigits cs * 10 ^ n := by
  rw [natOfDigits_append, natOfDigits_zeros, List.length_replicate, Nat.add_zero]

theorem natOfDigits_dropZeros (cs : List Char) :
    natOfDigits (cs.dropWhile (· == '0')) = natOfDigits cs := by
  induction cs with
  | nil => rfl
  | cons c rest ih =>
    by_cases zero : c = '0'
    · subst zero
      rw [List.dropWhile_cons_of_pos (by decide), ih, natOfDigits_cons]
      show _ = 0 * 10 ^ rest.length + _
      rw [Nat.zero_mul, Nat.zero_add]
    · rw [List.dropWhile_cons_of_neg (by simpa using zero)]

theorem natOfDigits_lt {cs : List Char} (h : ∀ c ∈ cs, isAsciiDigit c) :
    natOfDigits cs < 10 ^ cs.length := by
  induction cs with
  | nil => decide
  | cons c rest ih =>
    obtain ⟨digit, digits⟩ := List.forall_mem_cons.mp h
    have small : c.toNat - 48 ≤ 9 := by
      have upper : c.toNat ≤ 57 := (Char.isDigit_iff_toNat.mp (isAsciiDigit_iff.mp digit)).2
      omega
    have scaled : (c.toNat - 48) * 10 ^ rest.length ≤ 9 * 10 ^ rest.length :=
      Nat.mul_le_mul_right _ small
    rw [natOfDigits_cons, List.length_cons, Nat.pow_succ]
    have := ih digits
    omega

/-! ## The digits of a number -/

theorem natOfDigits_digitsOfNat (n : Nat) : natOfDigits (digitsOfNat n) = n :=
  Nat.ofDigitChars_ten_toDigits

theorem digitsOfNat_ne_nil (n : Nat) : digitsOfNat n ≠ [] := Nat.toDigits_ne_nil

theorem isAsciiDigit_of_mem_digitsOfNat {n : Nat} {c : Char} (h : c ∈ digitsOfNat n) :
    isAsciiDigit c :=
  isAsciiDigit_iff.mpr (Nat.isDigit_of_mem_toDigits (by decide) (by decide) h)

theorem length_digitsOfNat_le_iff {n k : Nat} (h : 0 < k) :
    (digitsOfNat n).length ≤ k ↔ n < 10 ^ k :=
  Nat.length_toDigits_le_iff (by decide) h

theorem length_digitsOfNat_pos (n : Nat) : 0 < (digitsOfNat n).length := Nat.length_toDigits_pos

theorem pow_length_digitsOfNat_le {n : Nat} (h : 0 < n) :
    10 ^ ((digitsOfNat n).length - 1) ≤ n := by
  by_cases one : (digitsOfNat n).length = 1
  · rw [one]
    exact h
  · have := length_digitsOfNat_pos n
    have fewer : ¬ (digitsOfNat n).length ≤ (digitsOfNat n).length - 1 := by omega
    rw [length_digitsOfNat_le_iff (by omega)] at fewer
    exact Nat.le_of_not_lt fewer

/-- Only zero begins with a zero. -/
theorem digitsOfNat_of_zero_first {n : Nat} {rest : List Char} (h : digitsOfNat n = '0' :: rest) :
    n = 0 := by
  by_contra positive
  have least := pow_length_digitsOfNat_le (Nat.pos_of_ne_zero positive)
  have written : natOfDigits rest = n := by
    have := natOfDigits_digitsOfNat n
    rw [h, natOfDigits_cons] at this
    simpa using this
  have digits : ∀ c ∈ rest, isAsciiDigit c := fun c hc =>
    isAsciiDigit_of_mem_digitsOfNat (n := n) (h ▸ List.mem_cons_of_mem _ hc)
  have bound := natOfDigits_lt digits
  rw [h, List.length_cons, Nat.add_sub_cancel] at least
  omega

theorem length_digitsOfNat_natOfDigits_le {cs : List Char} (h : ∀ c ∈ cs, isAsciiDigit c)
    (filled : cs ≠ []) : (digitsOfNat (natOfDigits cs)).length ≤ cs.length :=
  (length_digitsOfNat_le_iff (List.length_pos_iff.mpr filled)).mpr (natOfDigits_lt h)

end LiveLint.Text
