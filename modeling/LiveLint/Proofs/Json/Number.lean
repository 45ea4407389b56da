import LiveLint.Json.Printer
import LiveLint.Json.Reader
import LiveLint.Proofs.Number.Shortest

/-! # Numbers in JSON

The text of a number has a whole part, a fraction and an exponent, and each part is read up to its
end. Integers are read from their digits. Binary numbers are read from whatever text writes their
shortest digits, and these are rounded back to the number. -/

namespace LiveLint.Json
open LiveLint.Text LiveLint.Number LiveLint.Decimal

/-- What may follow a value: nothing, a comma or a new line. -/
inductive Follows : List Char → Prop where
  | nothing : Follows []
  | comma (r : List Char) : Follows (',' :: r)
  | newline (r : List Char) : Follows ('\n' :: r)

/-! ## The parts of a number -/

def fractionPart (fraction : List Char) : List Char :=
  if fraction.isEmpty then [] else '.' :: fraction

def exponentPart : Option Int → List Char
  | none => []
  | some x => 'e' :: exponentText x

/-- A whole number has no superfluous zeros. -/
structure IsWhole (whole : List Char) : Prop where
  digits : ∀ c ∈ whole, isAsciiDigit c
  filled : whole ≠ []
  first : ∀ rest, whole = '0' :: rest → rest = []

theorem isWhole_digitsOfNat (n : Nat) : IsWhole (digitsOfNat n) where
  digits c h := isAsciiDigit_of_mem_digitsOfNat h
  filled := digitsOfNat_ne_nil n
  first rest h := by
    obtain rfl := digitsOfNat_of_zero_first h
    exact (List.cons.inj h).2.symm

/-- Digits end before whatever begins with no digit. -/
theorem takeDigits {ds rest : List Char} (digits : ∀ c ∈ ds, isAsciiDigit c)
    (stop : ∀ c ∈ rest.head?, isAsciiDigit c = false) :
    (ds ++ rest).takeWhile isAsciiDigit = ds ∧ (ds ++ rest).dropWhile isAsciiDigit = rest := by
  rw [List.takeWhile_append_of_pos digits, List.dropWhile_append_of_pos digits]
  cases rest with
  | nil => exact ⟨List.append_nil ds, rfl⟩
  | cons c r =>
    have stop : isAsciiDigit c = false := stop c rfl
    rw [List.takeWhile_cons_of_neg (by simp [stop]), List.dropWhile_cons_of_neg (by simp [stop])]
    exact ⟨List.append_nil ds, rfl⟩

theorem takeWhole_append {whole rest : List Char} (h : IsWhole whole)
    (stop : ∀ c ∈ rest.head?, isAsciiDigit c = false) :
    takeWhole (whole ++ rest) = some (whole, rest) := by
  obtain ⟨digits, filled, first⟩ := h
  cases whole with
  | nil => exact absurd rfl filled
  | cons c r =>
    by_cases zero : c = '0'
    · subst zero
      obtain rfl := first r rfl
      rfl
    · obtain ⟨digit, digits⟩ := List.forall_mem_cons.mp digits
      obtain ⟨taken, left⟩ := takeDigits digits stop
      rw [List.cons_append, takeWhole, if_pos digit, taken, left]
      exact zero

theorem takeFraction_append {fraction rest : List Char} (digits : ∀ c ∈ fraction, isAsciiDigit c)
    (stop : ∀ c ∈ rest.head?, isAsciiDigit c = false ∧ c ≠ '.') :
    takeFraction (fractionPart fraction ++ rest) = (fraction, rest) := by
  unfold fractionPart
  cases fraction with
  | nil =>
    show takeFraction rest = ([], rest)
    rw [takeFraction]
    rintro r rfl
    exact (stop '.' rfl).2 rfl
  | cons c r =>
    show takeFraction ('.' :: (c :: r ++ rest)) = _
    obtain ⟨taken, left⟩ := takeDigits digits fun c hc => (stop c hc).1
    rw [takeFraction, taken, left]
    rfl

theorem exponentText_digits (x : Int) :
    ∃ ds, exponentText x = (if x < 0 then '-' else '+') :: ds ∧ (∀ c ∈ ds, isAsciiDigit c) ∧
      ds ≠ [] ∧ natOfDigits ds = x.natAbs := by
  have digits : ∀ c ∈ digitsOfNat x.natAbs, isAsciiDigit c :=
    fun c hc => isAsciiDigit_of_mem_digitsOfNat hc
  refine ⟨_, rfl, ?_, ?_, ?_⟩
  · split
    · exact List.forall_mem_cons.mpr ⟨by decide, digits⟩
    · exact digits
  · split
    · exact List.cons_ne_nil _ _
    · exact digitsOfNat_ne_nil _
  · split
    · rw [natOfDigits_cons, natOfDigits_digitsOfNat]
      simp
    · exact natOfDigits_digitsOfNat _

theorem takeExponent_none {rest : List Char} (h : Follows rest) :
    takeExponent rest = (none, rest) := by
  cases h <;> simp [takeExponent]

theorem takeExponent_append {rest : List Char} (h : Follows rest) (x? : Option Int) :
    takeExponent (exponentPart x? ++ rest) = (x?, rest) := by
  cases x? with
  | none => exact takeExponent_none h
  | some x =>
    obtain ⟨ds, text, digits, filled, value⟩ := exponentText_digits x
    have stop : ∀ c ∈ rest.head?, isAsciiDigit c = false := by
      cases h with
      | nothing => intro c hc; cases hc
      | comma r => intro c hc; obtain rfl := Option.some.inj hc; rfl
      | newline r => intro c hc; obtain rfl := Option.some.inj hc; rfl
    obtain ⟨taken, left⟩ := takeDigits digits stop
    have body : takeSign ((if x < 0 then '-' else '+') :: (ds ++ rest)) =
        (decide (x < 0), ds ++ rest) := by
      by_cases negative : x < 0
      · rw [if_pos negative, decide_eq_true negative]; rfl
      · rw [if_neg negative, decide_eq_false negative]; rfl
    have signedValue : (if decide (x < 0) then -(x.natAbs : Int) else x.natAbs) = x := by
      by_cases negative : x < 0
      · rw [decide_eq_true negative, if_pos rfl]
        omega
      · rw [decide_eq_false negative, if_neg Bool.false_ne_true]
        omega
    have nonempty : ds.isEmpty = false := by simpa using filled
    show takeExponent ('e' :: (exponentText x ++ rest)) = _
    rw [text, List.cons_append, takeExponent, body]
    dsimp only
    rw [taken, left, value, signedValue, nonempty]
    rfl

/-! ## Numbers -/

def sign (negative : Bool) (cs : List Char) : List Char := if negative then '-' :: cs else cs

theorem stop_of_follows {rest : List Char} (h : Follows rest) :
    ∀ c ∈ rest.head?, isAsciiDigit c = false ∧ c ≠ '.' := by
  intro c hc
  cases h with
  | nothing => cases hc
  | comma r => obtain rfl := Option.some.inj hc; decide
  | newline r => obtain rfl := Option.some.inj hc; decide

theorem stop_of_exponent {rest : List Char} (h : Follows rest) (x? : Option Int) :
    ∀ c ∈ (exponentPart x? ++ rest).head?, isAsciiDigit c = false ∧ c ≠ '.' := by
  cases x? with
  | none => exact stop_of_follows h
  | some x =>
    intro c hc
    obtain rfl := Option.some.inj hc
    decide

theorem stop_of_fraction {rest : List Char} (h : Follows rest) (fraction : List Char)
    (x? : Option Int) :
    ∀ c ∈ (fractionPart fraction ++ (exponentPart x? ++ rest)).head?, isAsciiDigit c = false := by
  cases fraction with
  | nil => exact fun c hc => (stop_of_exponent h x? c hc).1
  | cons first more =>
    intro c hc
    obtain rfl := Option.some.inj hc
    decide

/-- What is read after the sign. -/
def readUnsigned (negative : Bool) (left : Nat) (body : List Char) :
    Except Stop (Value × List Char) :=
  match takeWhole body with
  | none => .error (.at .value left)
  | some (whole, rest) =>
    let (fraction, rest) := takeFraction rest
    let (exponent, rest) := takeExponent rest
    if fraction.isEmpty && exponent.isNone then
      if digitLimit < whole.length then .error (.tooLong whole.length)
      else
        let n := natOfDigits whole
        .ok (.int (if negative then -(n : Int) else n), rest)
    else
      let digits := (whole ++ fraction).dropWhile (· == '0')
      let x := Binary64.ofDecimal negative (natOfDigits digits) digits.length
        (exponent.getD 0 - fraction.length)
      .ok (.float x, rest)

theorem readNumber_sign (negative : Bool) {whole : List Char} (hw : IsWhole whole)
    (rest : List Char) :
    ∃ left, readNumber (sign negative (whole ++ rest)) =
      readUnsigned negative left (whole ++ rest) := by
  cases negative with
  | true => exact ⟨_, rfl⟩
  | false =>
    obtain ⟨digits, filled, -⟩ := hw
    cases whole with
    | nil => exact absurd rfl filled
    | cons c more =>
      have other : c ≠ '-' := by
        rintro rfl
        exact absurd (digits '-' List.mem_cons_self) (by decide)
      refine ⟨(c :: more ++ rest).length, ?_⟩
      show readNumber (c :: (more ++ rest)) = _
      unfold readNumber
      split
      next negative body parts =>
        split at parts
        next e => exact absurd (List.cons.inj e).1 other
        · cases parts
          rfl

/-- A number is read part by part. -/
theorem readNumber_parts (negative : Bool) {whole rest : List Char} (hw : IsWhole whole)
    (fraction : List Char) (digits : ∀ c ∈ fraction, isAsciiDigit c) (x? : Option Int)
    (h : Follows rest) :
    readNumber (sign negative (whole ++ (fractionPart fraction ++ (exponentPart x? ++ rest)))) =
      if fraction.isEmpty && x?.isNone then
        if digitLimit < whole.length then .error (.tooLong whole.length)
        else .ok (.int (if negative then -(natOfDigits whole : Int) else natOfDigits whole), rest)
      else
        let digits := (whole ++ fraction).dropWhile (· == '0')
        .ok (.float (Binary64.ofDecimal negative (natOfDigits digits) digits.length
          (x?.getD 0 - fraction.length)), rest) := by
  obtain ⟨left, read⟩ := readNumber_sign negative hw
    (fractionPart fraction ++ (exponentPart x? ++ rest))
  rw [read, readUnsigned, takeWhole_append hw (stop_of_fraction h fraction x?)]
  dsimp only
  rw [takeFraction_append digits (stop_of_exponent h x?)]
  dsimp only
  rw [takeExponent_append h x?]

theorem readNumber_int (negative : Bool) {whole rest : List Char} (hw : IsWhole whole)
    (short : whole.length ≤ digitLimit) (h : Follows rest) :
    readNumber (sign negative (whole ++ rest)) =
      .ok (.int (if negative then -(natOfDigits whole : Int) else natOfDigits whole), rest) := by
  have read := readNumber_parts negative hw [] (by simp) none h
  simp only [List.isEmpty_nil, Option.isNone_none, Bool.and_self, if_true] at read
  rw [if_neg (by omega)] at read
  exact read

theorem toString_int (n : Int) :
    (toString n).toList = sign (n < 0) (digitsOfNat n.natAbs) := by
  cases n with
  | ofNat m =>
    have text : toString (Int.ofNat m) = String.ofList (digitsOfNat m) :=
      Nat.toString_eq_ofList_toDigits
    rw [text, String.toList_ofList]
    rfl
  | negSucc m =>
    have text : toString (Int.negSucc m) = "-" ++ String.ofList (digitsOfNat (m + 1)) :=
      congrArg ("-" ++ ·) Nat.toString_eq_ofList_toDigits
    have negative : decide (Int.negSucc m < 0) = true := decide_eq_true (Int.negSucc_lt_zero m)
    rw [text, String.toList_append, String.toList_ofList, String.toList_ofList, negative]
    rfl

theorem sign_append (negative : Bool) (cs rest : List Char) :
    sign negative cs ++ rest = sign negative (cs ++ rest) := by
  cases negative <;> rfl

/-- **Printing an integer and reading it gives the integer back**, unless it has too many digits. -/
theorem readNumber_toString {n : Int} {rest : List Char}
    (short : (digitsOfNat n.natAbs).length ≤ digitLimit) (h : Follows rest) :
    readNumber ((toString n).toList ++ rest) = .ok (.int n, rest) := by
  have value : (if decide (n < 0) = true then -(n.natAbs : Int) else n.natAbs) = n := by
    by_cases negative : n < 0
    · rw [decide_eq_true negative, if_pos rfl]
      omega
    · rw [decide_eq_false negative, if_neg Bool.false_ne_true]
      omega
  rw [toString_int, sign_append, readNumber_int _ (isWhole_digitsOfNat _) short h,
    natOfDigits_digitsOfNat, value]

/-! ## Binary numbers -/

/-- Digits that do not begin with a zero. -/
structure IsLeading (ds : List Char) : Prop where
  digits : ∀ c ∈ ds, isAsciiDigit c
  filled : ds ≠ []
  first : ∀ rest, ds ≠ '0' :: rest

theorem IsLeading.isWhole {ds more : List Char} (h : IsLeading ds)
    (digits : ∀ c ∈ more, isAsciiDigit c) : IsWhole (ds ++ more) where
  digits := List.forall_mem_append.mpr ⟨h.digits, digits⟩
  filled e := h.filled (List.append_eq_nil_iff.mp e).1
  first rest e := by
    cases ds with
    | nil => exact absurd rfl h.filled
    | cons c r => exact absurd (by rw [(List.cons.inj e).1]) (h.first r)

theorem dropZeros_append (cs : List Char) : ∃ n, cs = dropZeros cs ++ List.replicate n '0' := by
  refine ⟨(cs.reverse.takeWhile (· == '0')).length, ?_⟩
  have zeros : (cs.reverse.takeWhile (· == '0')).reverse =
      List.replicate (cs.reverse.takeWhile (· == '0')).length '0' := by
    refine List.eq_replicate_iff.mpr ⟨List.length_reverse, fun c hc => ?_⟩
    exact beq_iff_eq.mp (List.all_eq_true.mp List.all_takeWhile c (List.mem_reverse.mp hc))
  have parts := congrArg List.reverse (List.takeWhile_append_dropWhile (p := (· == '0')) (l := cs.reverse))
  rw [List.reverse_append, List.reverse_reverse, zeros] at parts
  exact parts.symm

/-- The value of digits with their point. -/
def valueOf (d : Digits) : ℚ := natOfDigits d.digits * 10 ^ (d.point - d.digits.length)

theorem ofNatPower_value {n : Nat} (k : Int) (positive : 0 < n) :
    IsLeading (ofNatPower n k).digits ∧ valueOf (ofNatPower n k) = n * 10 ^ k := by
  obtain ⟨z, parts⟩ := dropZeros_append (digitsOfNat n)
  have value : n = natOfDigits (dropZeros (digitsOfNat n)) * 10 ^ z := by
    rw [← natOfDigits_append_zeros, ← parts, natOfDigits_digitsOfNat]
  have count : (digitsOfNat n).length = (dropZeros (digitsOfNat n)).length + z := by
    conv_lhs => rw [parts]
    rw [List.length_append, List.length_replicate]
  refine ⟨⟨fun c hc => ?_, fun empty => ?_, fun rest e => ?_⟩, ?_⟩
  · exact isAsciiDigit_of_mem_digitsOfNat (n := n) (parts ▸ List.mem_append_left _ hc)
  · rw [show dropZeros (digitsOfNat n) = [] from empty] at value
    have : natOfDigits [] = 0 := rfl
    rw [this, Nat.zero_mul] at value
    omega
  · have : digitsOfNat n = '0' :: (rest ++ List.replicate z '0') := by
      rw [parts, show dropZeros (digitsOfNat n) = '0' :: rest from e]
      rfl
    have := digitsOfNat_of_zero_first this
    omega
  · have point : (ofNatPower n k).point - (ofNatPower n k).digits.length = (z : Int) + k := by
      show ((digitsOfNat n).length : Int) + k - (dropZeros (digitsOfNat n)).length = _
      omega
    have value : (n : ℚ) = natOfDigits (dropZeros (digitsOfNat n)) * 10 ^ z := by
      exact_mod_cast value
    rw [valueOf, point, zpow_add₀ (by norm_num), zpow_natCast, ← mul_assoc, value]
    rfl

/-- A text of a binary number: its parts, and the value that they write. -/
structure IsText (cs : List Char) (value : ℚ) (whole fraction : List Char) (x? : Option Int) :
    Prop where
  parts : cs = whole ++ (fractionPart fraction ++ exponentPart x?)
  isWhole : IsWhole whole
  digits : ∀ c ∈ fraction, isAsciiDigit c
  binary : (fraction.isEmpty && x?.isNone) = false
  value : (natOfDigits (whole ++ fraction) : ℚ) * 10 ^ (x?.getD 0 - fraction.length) = value

section

variable {d : Digits}

theorem isWhole_zero : IsWhole ['0'] where
  digits := List.forall_mem_singleton.mpr rfl
  filled := by decide
  first _ e := (List.cons.inj e).2.symm

theorem digits_replicate_zero (n : Nat) : ∀ c ∈ List.replicate n '0', isAsciiDigit c := by
  intro c hc
  obtain rfl := (List.mem_replicate.mp hc).2
  decide

theorem fractionPart_cons (c : Char) (cs : List Char) : fractionPart (c :: cs) = '.' :: c :: cs := rfl

/-- Numbers below one have their zeros after the point. -/
theorem positional_small (h : IsLeading d.digits) (small : d.point ≤ 0) :
    IsText (Layout.value.positional d) (valueOf d) ['0']
      (List.replicate (-d.point).toNat '0' ++ d.digits) none := by
  have filled : (List.replicate (-d.point).toNat '0' ++ d.digits).isEmpty = false := by
    simpa using fun _ => h.filled
  refine ⟨?_, isWhole_zero, ?_, ?_, ?_⟩
  · rw [Layout.positional, if_pos small, fractionPart, filled]
    simp [exponentPart]
  · exact List.forall_mem_append.mpr ⟨digits_replicate_zero _, h.digits⟩
  · rw [filled]
    rfl
  · have exponent : (0 : Int) - (List.replicate (-d.point).toNat '0' ++ d.digits).length =
        d.point - d.digits.length := by
      rw [List.length_append, List.length_replicate]
      omega
    have digits : natOfDigits (['0'] ++ (List.replicate (-d.point).toNat '0' ++ d.digits)) =
        natOfDigits d.digits := by
      rw [natOfDigits_append, natOfDigits_append, natOfDigits_zeros]
      show 0 * _ + _ = _
      omega
    rw [Option.getD_none, exponent, digits, valueOf]

/-- Whole numbers have their zeros before the point and one after it. -/
theorem positional_whole (h : IsLeading d.digits) (large : 0 < d.point)
    (whole : d.digits.length ≤ d.point.toNat) :
    IsText (Layout.value.positional d) (valueOf d)
      (d.digits ++ List.replicate (d.point.toNat - d.digits.length) '0') ['0'] none := by
  refine ⟨?_, h.isWhole (digits_replicate_zero _), isWhole_zero.digits, rfl, ?_⟩
  · rw [Layout.positional, if_neg (by omega)]
    dsimp only
    rw [List.drop_eq_nil_of_le whole, List.take_of_length_le whole]
    rfl
  · rw [Option.getD_none, valueOf, natOfDigits_append, natOfDigits_append_zeros]
    have exponent : d.point - d.digits.length =
        ((d.point.toNat - d.digits.length : Nat) : Int) := by omega
    have zero : natOfDigits ['0'] = 0 := rfl
    have last : (10 : ℚ) ^ ((0 : Int) - (['0'].length : Nat)) = 10⁻¹ := zpow_neg_one 10
    rw [exponent, zpow_natCast, last, zero, List.length_singleton, pow_one, Nat.add_zero]
    push_cast
    field_simp

/-- Other numbers have their point between the digits. -/
theorem positional_between (h : IsLeading d.digits) (large : 0 < d.point)
    (between : d.point.toNat < d.digits.length) :
    IsText (Layout.value.positional d) (valueOf d) (d.digits.take d.point.toNat)
      (d.digits.drop d.point.toNat) none := by
  obtain ⟨c, cs, fraction⟩ : ∃ c cs, d.digits.drop d.point.toNat = c :: cs :=
    List.exists_cons_of_ne_nil fun e => by
      have := List.drop_eq_nil_iff.mp e
      omega
  obtain ⟨digits, filled, first⟩ := h
  refine ⟨?_, ⟨?_, ?_, ?_⟩, ?_, ?_, ?_⟩
  · have none : d.point.toNat - d.digits.length = 0 := by omega
    rw [Layout.positional, if_neg (by omega), fraction, fractionPart_cons]
    dsimp only
    rw [fraction, none]
    simp [exponentPart]
  · exact fun c hc => digits c (List.mem_of_mem_take hc)
  · intro empty
    rcases List.take_eq_nil_iff.mp empty with zero | empty
    · omega
    · exact filled empty
  · intro rest e
    have := List.take_append_drop d.point.toNat d.digits
    rw [e] at this
    exact absurd this.symm (first _)
  · exact fun c hc => digits c (List.mem_of_mem_drop hc)
  · rw [fraction]
    rfl
  · have exponent : (0 : Int) - (d.digits.drop d.point.toNat).length =
        d.point - d.digits.length := by
      rw [List.length_drop]
      omega
    rw [Option.getD_none, exponent, List.take_append_drop, valueOf]

theorem scientific_text (h : IsLeading d.digits) :
    ∃ c cs, IsText (scientific d) (valueOf d) [c] cs (some (d.point - 1)) := by
  obtain ⟨digits, filled, first⟩ := h
  obtain ⟨c, cs, parts⟩ := List.exists_cons_of_ne_nil filled
  rw [parts] at digits first
  obtain ⟨digit, digits⟩ := List.forall_mem_cons.mp digits
  refine ⟨c, cs, ?_, ⟨?_, List.cons_ne_nil _ _, ?_⟩, digits, ?_, ?_⟩
  · cases cs with
    | nil => rw [scientific, parts]; rfl
    | cons c' cs => rw [scientific, parts]; simp [fractionPart, exponentPart]
  · exact List.forall_mem_singleton.mpr digit
  · intro rest e
    exact (List.cons.inj e).2.symm
  · simp
  · have exponent : d.point - 1 - cs.length = d.point - d.digits.length := by
      rw [parts, List.length_cons]
      omega
    rw [Option.getD_some, exponent, valueOf, parts]
    rfl

/-- However a number is laid out, its text writes the value of its digits. -/
theorem write_text (h : IsLeading d.digits) :
    ∃ whole fraction x?, IsText (Layout.value.write d) (valueOf d) whole fraction x? := by
  unfold Layout.write
  split
  · by_cases small : d.point ≤ 0
    · exact ⟨_, _, _, positional_small h small⟩
    · by_cases whole : d.digits.length ≤ d.point.toNat
      · exact ⟨_, _, _, positional_whole h (by omega) whole⟩
      · exact ⟨_, _, _, positional_between h (by omega) (by omega)⟩
  · obtain ⟨c, cs, text⟩ := scientific_text h
    exact ⟨_, _, _, text⟩

end

/-- The digits that are read are not more than their number says. -/
theorem natOfDigits_lt_dropZeros {cs : List Char} (h : ∀ c ∈ cs, isAsciiDigit c) :
    natOfDigits (cs.dropWhile (· == '0')) < 10 ^ (cs.dropWhile (· == '0')).length :=
  natOfDigits_lt fun c hc => h c ((List.dropWhile_sublist _).subset hc)

open Binary64 in
/-- A text whose value is near to a binary number is read as that number. -/
theorem readNumber_near {negative : Bool} {m e : Nat} {cs whole fraction rest : List Char}
    {x? : Option Int} {value : ℚ} (positive : 0 < m) (double : (finite negative m e).IsDouble)
    (text : IsText cs value whole fraction x?) (near : Near m e (value * 2 ^ 1074))
    (h : Follows rest) :
    readNumber (sign negative (cs ++ rest)) = .ok (.float (finite negative m e), rest) := by
  have digits := List.forall_mem_append.mpr ⟨text.isWhole.digits, text.digits⟩
  have read := readNumber_parts negative text.isWhole fraction text.digits x? h
  rw [if_neg (by simp [text.binary])] at read
  dsimp only at read
  rw [ofDecimal_near positive double (natOfDigits_lt_dropZeros digits) ?_] at read
  · rw [text.parts, List.append_assoc, List.append_assoc]
    exact read
  · rw [decimalUnits, natOfDigits_dropZeros, text.value]
    exact near

theorem printNumber_finite (negative : Bool) (m e : Nat) :
    printNumber (.finite negative m e) =
      sign negative (Layout.value.write (if m == 0 then zeroDigits else shortest m e)) := by
  show (signed negative _).toList = _
  rw [signed, String.toList_ofList]
  rfl

open Binary64 in
/-- The text of a number writes a value near to it. -/
theorem printNumber_near (negative : Bool) {m e : Nat} (positive : 0 < m)
    (double : (finite negative m e).IsDouble) :
    ∃ cs value whole fraction x?, printNumber (finite negative m e) = sign negative cs ∧
      IsText cs value whole fraction x? ∧ Near m e (value * 2 ^ 1074) := by
  obtain ⟨n, k, digits, near⟩ := shortest_near (e := e) positive double.1
  have filled := digits_ne_zero (near.half_le positive)
  obtain ⟨leading, value⟩ := ofNatPower_value k (Nat.pos_of_ne_zero filled)
  obtain ⟨whole, fraction, x?, text⟩ := write_text leading
  refine ⟨_, _, whole, fraction, x?, ?_, text, ?_⟩
  · rw [printNumber_finite, if_neg (by simpa using Nat.ne_of_gt positive), digits]
  · rw [value]
    exact near

/-- The text of a finite number is made of its parts. -/
theorem printNumber_parts {negative : Bool} {m e : Nat}
    (double : (Binary64.finite negative m e).IsDouble) :
    ∃ whole fraction x?, IsWhole whole ∧ (∀ c ∈ fraction, isAsciiDigit c) ∧
      printNumber (.finite negative m e) =
        sign negative (whole ++ (fractionPart fraction ++ exponentPart x?)) := by
  by_cases zero : m = 0
  · subst zero
    refine ⟨['0'], ['0'], none, isWhole_zero, isWhole_zero.digits, ?_⟩
    rw [printNumber_finite]
    rfl
  · obtain ⟨cs, value, whole, fraction, x?, printed, text, -⟩ :=
      printNumber_near negative (Nat.pos_of_ne_zero zero) double
    exact ⟨whole, fraction, x?, text.isWhole, text.digits, text.parts ▸ printed⟩

theorem readNumber_zero (negative : Bool) {rest : List Char} (h : Follows rest) :
    readNumber (sign negative (Layout.value.write zeroDigits ++ rest)) =
      .ok (.float (.finite negative 0 0), rest) := by
  have read := readNumber_parts negative isWhole_zero ['0'] isWhole_zero.digits none h
  exact read

/-- **Printing a number and reading it gives the number back.** -/
theorem readNumber_printNumber {negative : Bool} {m e : Nat} {rest : List Char}
    (double : (Binary64.finite negative m e).IsDouble) (h : Follows rest) :
    readNumber (printNumber (.finite negative m e) ++ rest) =
      .ok (.float (.finite negative m e), rest) := by
  by_cases zero : m = 0
  · subst zero
    obtain rfl : e = 0 := double.2.1.resolve_right (by decide)
    rw [printNumber_finite, sign_append]
    exact readNumber_zero negative h
  · have positive : 0 < m := Nat.pos_of_ne_zero zero
    obtain ⟨cs, value, whole, fraction, x?, printed, text, near⟩ :=
      printNumber_near negative positive double
    rw [printed, sign_append]
    exact readNumber_near positive double text near h

end LiveLint.Json
