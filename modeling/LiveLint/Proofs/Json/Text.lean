import LiveLint.Json.Printer
import LiveLint.Json.Reader

/-! # Texts in JSON

Texts are printed in ASCII, and each character is read back from what was printed for it: from
itself, from a short escape, from the number of its code, or from the two halves of a surrogate
pair. -/

namespace LiveLint.Json
open LiveLint.Text

/-! ## Escapes by number -/

theorem hexValue?_hexDigit {k : Nat} (h : k < 16) : hexValue? (hexDigit k) = some k := by
  revert k
  decide

theorem hexDigits_four (n : Nat) :
    hexDigits 4 n = [hexDigit (n / 16 / 16 / 16 % 16), hexDigit (n / 16 / 16 % 16),
      hexDigit (n / 16 % 16), hexDigit (n % 16)] := rfl

theorem hex4?_hexDigits {n : Nat} (h : n < 0x10000) :
    hex4? (hexDigit (n / 16 / 16 / 16 % 16)) (hexDigit (n / 16 / 16 % 16))
      (hexDigit (n / 16 % 16)) (hexDigit (n % 16)) = some n := by
  have digit (m : Nat) : hexValue? (hexDigit (m % 16)) = some (m % 16) :=
    hexValue?_hexDigit (Nat.mod_lt _ (by decide))
  simp only [hex4?, digit]
  congr 1
  omega

/-- The escape of a code that is no half of a pair. -/
theorem readChars_unitEscape {n : Nat} (h : n < 0x10000) (single : isHighSurrogate n = false)
    (opening : Nat) {tail : List Char} (more : tail ≠ []) :
    readChars opening (unitEscape n ++ tail) = prepend (loneUnit n) (readChars opening tail) := by
  have filled : tail.isEmpty = false := by simpa using more
  show readChars opening ('\\' :: 'u' :: (hexDigits 4 n ++ tail)) = _
  rw [hexDigits_four]
  show readChars opening ('\\' :: 'u' :: _ :: _ :: _ :: _ :: tail) = _
  rw [readChars, if_neg (by simp [filled]), hex4?_hexDigits h]
  dsimp only
  split
  · rw [if_neg (by simp [single])]
  · rfl

/-- The escapes of the two halves of a pair. -/
theorem readChars_pair {high low : Nat} (hh : isHighSurrogate high) (hl : isLowSurrogate low)
    (opening : Nat) {tail : List Char} (more : tail ≠ []) :
    readChars opening (unitEscape high ++ (unitEscape low ++ tail)) =
      prepend (joinSurrogates high low) (readChars opening tail) := by
  have highSmall : high < 0x10000 := by
    simp only [isHighSurrogate, Bool.and_eq_true, decide_eq_true_eq] at hh
    omega
  have lowSmall : low < 0x10000 := by
    simp only [isLowSurrogate, Bool.and_eq_true, decide_eq_true_eq] at hl
    omega
  obtain ⟨next, rest, rfl⟩ := List.exists_cons_of_ne_nil more
  show readChars opening
    ('\\' :: 'u' :: (hexDigits 4 high ++ '\\' :: 'u' :: (hexDigits 4 low ++ next :: rest))) = _
  rw [hexDigits_four, hexDigits_four]
  show readChars opening
    ('\\' :: 'u' :: _ :: _ :: _ :: _ :: '\\' :: 'u' :: _ :: _ :: _ :: _ :: next :: rest) = _
  rw [readChars, if_neg (by simp), hex4?_hexDigits highSmall]
  show (if isHighSurrogate high then _ else _) = _
  rw [if_pos hh, hex4?_hexDigits lowSmall]
  dsimp only
  rw [if_pos hl]

/-! ## Characters -/

/-- A character from a blank to a tilde. -/
def isVisible (c : Char) : Bool := 0x20 ≤ c.toNat && c.toNat < 0x7f

theorem isVisible_iff {c : Char} : isVisible c ↔ 0x20 ≤ c.toNat ∧ c.toNat < 0x7f := by
  rw [isVisible, Bool.and_eq_true, decide_eq_true_eq, decide_eq_true_eq]

theorem char_lt (c : Char) : c.toNat < 0x110000 := by
  rcases c.valid with small | ⟨-, large⟩
  · exact Nat.lt_trans small (by decide)
  · exact large

theorem not_surrogate (c : Char) : ¬ (0xd800 ≤ c.toNat ∧ c.toNat < 0xe000) := by
  rcases c.valid with small | ⟨large, -⟩
  · intro h
    have : c.toNat < 0xd800 := small
    omega
  · intro h
    have : 0xdfff < c.toNat := large
    omega

theorem loneUnit_toNat (c : Char) : loneUnit c.toNat = c := by
  have outside := not_surrogate c
  rw [loneUnit, if_neg (by simpa using outside), Char.ofNat_toNat]

theorem readChars_small {c : Char} (h : c.toNat < 0x10000) (opening : Nat) {tail : List Char}
    (more : tail ≠ []) :
    readChars opening (unitEscape c.toNat ++ tail) = prepend c (readChars opening tail) := by
  have outside := not_surrogate c
  have single : isHighSurrogate c.toNat = false := by
    simp only [isHighSurrogate, Bool.and_eq_false_iff, decide_eq_false_iff_not]
    omega
  rw [readChars_unitEscape h single opening more, loneUnit_toNat]

theorem readChars_large {c : Char} (h : 0x10000 ≤ c.toNat) (opening : Nat) {tail : List Char}
    (more : tail ≠ []) :
    readChars opening (unitEscape (0xd800 + (c.toNat - 0x10000) / 0x400) ++
      (unitEscape (0xdc00 + (c.toNat - 0x10000) % 0x400) ++ tail)) =
      prepend c (readChars opening tail) := by
  have limit := char_lt c
  have high : isHighSurrogate (0xd800 + (c.toNat - 0x10000) / 0x400) := by
    simp only [isHighSurrogate, Bool.and_eq_true, decide_eq_true_eq]
    omega
  have low : isLowSurrogate (0xdc00 + (c.toNat - 0x10000) % 0x400) := by
    simp only [isLowSurrogate, Bool.and_eq_true, decide_eq_true_eq]
    omega
  have joined : joinSurrogates (0xd800 + (c.toNat - 0x10000) / 0x400)
      (0xdc00 + (c.toNat - 0x10000) % 0x400) = c := by
    have code : 0x10000 + (0xd800 + (c.toNat - 0x10000) / 0x400 - 0xd800) * 0x400 +
        (0xdc00 + (c.toNat - 0x10000) % 0x400 - 0xdc00) = c.toNat := by omega
    rw [joinSurrogates, code, Char.ofNat_toNat]
  rw [readChars_pair high low opening more, joined]

/-- A character that stands for itself. -/
theorem readChars_plain {c : Char} (quote : c ≠ '"') (backslash : c ≠ '\\') (h : 0x20 ≤ c.toNat)
    (opening : Nat) (tail : List Char) :
    readChars opening (c :: tail) = prepend c (readChars opening tail) := by
  rw [readChars.eq_def]
  split
  next e => cases e
  next e => exact absurd (List.cons.inj e).1 quote
  next e => exact absurd (List.cons.inj e).1 backslash
  next e => exact absurd (List.cons.inj e).1 backslash
  next e => exact absurd (List.cons.inj e).1 backslash
  next e => exact absurd (List.cons.inj e).1 backslash
  next e =>
    obtain ⟨rfl, rfl⟩ := List.cons.inj e
    rw [if_neg (by omega)]

/-- A short escape. -/
theorem readChars_escape {c x : Char} (escape : escaped? x = some c) (opening : Nat)
    (tail : List Char) :
    readChars opening ('\\' :: x :: tail) = prepend c (readChars opening tail) := by
  have short : x ≠ 'u' := by
    rintro rfl
    cases escape
  rw [readChars]
  · rw [escape]
  · exact fun _ _ _ _ _ e => absurd e short
  · exact fun e => absurd e short

/-- A character is printed as a short escape, as itself, or by its number. -/
theorem printChar_cases (c : Char) :
    (∃ x, escaped? x = some c ∧ isVisible x ∧ printChar c = ['\\', x]) ∨
      (c ≠ '"' ∧ c ≠ '\\' ∧ isVisible c ∧ printChar c = [c]) ∨
      (c.toNat < 0x10000 ∧ printChar c = unitEscape c.toNat) ∨
      (0x10000 ≤ c.toNat ∧
        printChar c = unitEscape (0xd800 + (c.toNat - 0x10000) / 0x400) ++
          unitEscape (0xdc00 + (c.toNat - 0x10000) % 0x400)) := by
  unfold printChar
  split
  next h => exact .inl ⟨'"', congrArg some h.symm, rfl, rfl⟩
  next quote =>
    split
    next h => exact .inl ⟨'\\', congrArg some h.symm, rfl, rfl⟩
    next backslash =>
      split
      next h => exact .inl ⟨'n', congrArg some h.symm, rfl, rfl⟩
      split
      next h => exact .inl ⟨'r', congrArg some h.symm, rfl, rfl⟩
      split
      next h => exact .inl ⟨'t', congrArg some h.symm, rfl, rfl⟩
      split
      next h => exact .inl ⟨'b', congrArg some h.symm, rfl, rfl⟩
      split
      next h => exact .inl ⟨'f', congrArg some h.symm, rfl, rfl⟩
      split
      next plain =>
        simp only [Bool.and_eq_true, decide_eq_true_eq] at plain
        exact .inr (.inl ⟨quote, backslash, isVisible_iff.mpr (by omega), rfl⟩)
      split
      next small => exact .inr (.inr (.inl ⟨small, rfl⟩))
      next large => exact .inr (.inr (.inr ⟨Nat.le_of_not_lt large, rfl⟩))

/-- Each character is read back from what is printed for it. -/
theorem readChars_printChar (c : Char) (opening : Nat) {tail : List Char} (more : tail ≠ []) :
    readChars opening (printChar c ++ tail) = prepend c (readChars opening tail) := by
  obtain ⟨x, escape, -, printed⟩ | ⟨quote, backslash, visible, printed⟩ | ⟨small, printed⟩ |
    ⟨large, printed⟩ := printChar_cases c
  · rw [printed]
    exact readChars_escape escape opening tail
  · rw [printed]
    exact readChars_plain quote backslash (isVisible_iff.mp visible).1 opening tail
  · rw [printed]
    exact readChars_small small opening more
  · rw [printed, List.append_assoc]
    exact readChars_large large opening more

/-! ## Texts -/

theorem readChars_printed (cs : List Char) (opening : Nat) (rest : List Char) :
    readChars opening (cs.flatMap printChar ++ '"' :: rest) = .ok (cs, rest) := by
  induction cs with
  | nil => rfl
  | cons c cs ih =>
    have more : cs.flatMap printChar ++ '"' :: rest ≠ [] := by simp
    rw [List.flatMap_cons, List.append_assoc, readChars_printChar c opening more, ih]
    rfl

theorem printText_append (s : String) (rest : List Char) :
    printText s ++ rest = '"' :: (s.toList.flatMap printChar ++ '"' :: rest) := by
  simp [printText]

/-! ## What is printed -/

theorem hexDigit_visible {k : Nat} (h : k < 16) : isVisible (hexDigit k) := by
  revert k
  decide

theorem mem_unitEscape {n : Nat} {d : Char} (h : d ∈ unitEscape n) : isVisible d := by
  have digit (m : Nat) : isVisible (hexDigit (m % 16)) := hexDigit_visible (Nat.mod_lt _ (by decide))
  rw [unitEscape, hexDigits_four] at h
  simp only [List.mem_cons, List.not_mem_nil, or_false] at h
  rcases h with rfl | rfl | rfl | rfl | rfl | rfl
  · decide
  · decide
  · exact digit _
  · exact digit _
  · exact digit _
  · exact digit _

theorem mem_printChar {c d : Char} (h : d ∈ printChar c) : isVisible d := by
  obtain ⟨x, -, visible, printed⟩ | ⟨-, -, visible, printed⟩ | ⟨-, printed⟩ | ⟨-, printed⟩ :=
    printChar_cases c
  · rw [printed, List.mem_cons, List.mem_singleton] at h
    rcases h with rfl | rfl
    · rfl
    · exact visible
  · rw [printed] at h
    exact List.mem_singleton.mp h ▸ visible
  · rw [printed] at h
    exact mem_unitEscape h
  · rw [printed] at h
    rcases List.mem_append.mp h with h | h
    · exact mem_unitEscape h
    · exact mem_unitEscape h

theorem mem_printText {s : String} {d : Char} (h : d ∈ printText s) : isVisible d := by
  rw [printText, List.mem_append, List.mem_cons, List.mem_flatMap, List.mem_singleton] at h
  rcases h with (rfl | ⟨c, -, h⟩) | rfl
  · decide
  · exact mem_printChar h
  · decide

end LiveLint.Json
