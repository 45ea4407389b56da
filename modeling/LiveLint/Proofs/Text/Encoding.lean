import LiveLint.Text.LineBreak
import LiveLint.Text.Utf8

/-! # Texts in UTF-8

Every text is read back from its bytes. The first byte of a character says how many follow, each
with six bits of its code point. Readers refuse a second byte where fewer bytes would do, where the
code point would be a surrogate and where it would be too large; no character has such a one. -/

namespace LiveLint.Text

def isAscii (c : Char) : Bool := c.toNat < 0x80

/-! ## The bytes of a character -/

theorem toNat_byte {n : Nat} (h : n < 0x100) : (UInt8.ofNat n).toNat = n := by
  rw [UInt8.toNat_ofNat']
  omega

theorem utf8Step_lead {n count low high value : Nat} (byte : n < 0x100)
    (lead : utf8Lead n = some (count, low, high, value)) (rest : List UInt8) :
    utf8Step (UInt8.ofNat n) rest = utf8Tail value 1 low high count rest := by
  rw [utf8Step, toNat_byte byte, lead]

theorem utf8Tail_byte {value read low high count bits : Nat} (six : bits < 64)
    (above : low ≤ 0x80 + bits) (below : 0x80 + bits ≤ high) (rest : List UInt8) :
    utf8Tail value read low high (count + 1) (UInt8.ofNat (0x80 + bits) :: rest) =
      utf8Tail (value * 64 + bits) (read + 1) 0x80 0xbf count rest := by
  rw [utf8Tail, toNat_byte (by omega), Nat.add_sub_cancel_left, if_pos]
  simp [above, below]

theorem utf8Step_one {n : Nat} (h : n < 0x80) (rest : List UInt8) :
    utf8Step (UInt8.ofNat n) rest = .char (Char.ofNat n) := by
  rw [utf8Step_lead (by omega) (if_pos h)]
  rfl

theorem utf8Step_two {a x : Nat} (long : 2 ≤ a) (five : a < 32) (six : x < 64)
    (rest : List UInt8) :
    utf8Step (UInt8.ofNat (0xc0 + a)) (UInt8.ofNat (0x80 + x) :: rest) =
      .char (Char.ofNat (a * 64 + x)) := by
  have lead : utf8Lead (0xc0 + a) = some (1, 0x80, 0xbf, a) := by
    rw [utf8Lead, if_neg (by omega), if_neg (by omega), if_pos (by omega), Nat.add_sub_cancel_left]
  rw [utf8Step_lead (by omega) lead, utf8Tail_byte six (by omega) (by omega)]
  rfl

theorem utf8Step_three {a x y : Nat} (four : a < 16) (six : x < 64) (six' : y < 64)
    (long : a = 0 → 0x20 ≤ x) (noSurrogate : a = 0xd → x < 0x20) (rest : List UInt8) :
    utf8Step (UInt8.ofNat (0xe0 + a))
        (UInt8.ofNat (0x80 + x) :: UInt8.ofNat (0x80 + y) :: rest) =
      .char (Char.ofNat ((a * 64 + x) * 64 + y)) := by
  have leads : ∀ a < 16, utf8Lead (0xe0 + a) =
      some (2, if a = 0 then 0xa0 else 0x80, if a = 0xd then 0x9f else 0xbf, a) := by decide
  rw [utf8Step_lead (by omega) (leads a four),
    utf8Tail_byte six (by split <;> omega) (by split <;> omega),
    utf8Tail_byte six' (by omega) (by omega)]
  rfl

theorem utf8Step_four {a x y z : Nat} (three : a < 5) (six : x < 64) (six' : y < 64)
    (six'' : z < 64) (long : a = 0 → 0x10 ≤ x) (bound : a = 4 → x < 0x10) (rest : List UInt8) :
    utf8Step (UInt8.ofNat (0xf0 + a))
        (UInt8.ofNat (0x80 + x) :: UInt8.ofNat (0x80 + y) :: UInt8.ofNat (0x80 + z) :: rest) =
      .char (Char.ofNat (((a * 64 + x) * 64 + y) * 64 + z)) := by
  have leads : ∀ a < 5, utf8Lead (0xf0 + a) =
      some (3, if a = 0 then 0x90 else 0x80, if a = 4 then 0x8f else 0xbf, a) := by decide
  rw [utf8Step_lead (by omega) (leads a three),
    utf8Tail_byte six (by split <;> omega) (by split <;> omega),
    utf8Tail_byte six' (by omega) (by omega), utf8Tail_byte six'' (by omega) (by omega)]
  rfl

/-- The bytes of a character are one step, whatever follows. -/
theorem utf8Step_encodeUtf8Char (c : Char) :
    ∃ b more, encodeUtf8Char c = b :: more ∧ more.length = utf8Width c - 1 ∧
      ∀ rest, utf8Step b (more ++ rest) = .char c := by
  have valid : c.toNat < 0xd800 ∨ 0xdfff < c.toNat ∧ c.toNat < 0x110000 := c.valid
  have read {n : Nat} (same : n = c.toNat) : Utf8Step.char (Char.ofNat n) = .char c := by
    rw [same, Char.ofNat_toNat]
  have powers : Nat.pow 64 0 = 1 ∧ Nat.pow 64 1 = 64 ∧ Nat.pow 64 2 = 4096 ∧
    Nat.pow 64 3 = 262144 := ⟨rfl, rfl, rfl, rfl⟩
  unfold encodeUtf8Char utf8Width
  simp only [powers, Nat.div_one]
  split
  next one => exact ⟨_, [], rfl, rfl, fun rest => (utf8Step_one one rest).trans (read rfl)⟩
  next =>
    split
    next two =>
      refine ⟨_, [_], rfl, rfl, fun rest => ?_⟩
      exact (utf8Step_two (by omega) (by omega) (by omega) rest).trans (read (by omega))
    next =>
      split
      next three =>
        refine ⟨_, [_, _], rfl, rfl, fun rest => ?_⟩
        exact (utf8Step_three (by omega) (by omega) (by omega) (by omega) (by omega) rest).trans
          (read (by omega))
      next four =>
        refine ⟨_, [_, _, _], rfl, rfl, fun rest => ?_⟩
        exact (utf8Step_four (by omega) (by omega) (by omega) (by omega) (by omega) (by omega)
          rest).trans (read (by omega))

theorem encodeUtf8Char_ascii {c : Char} (h : isAscii c) :
    encodeUtf8Char c = [UInt8.ofNat c.toNat] := by
  have small : c.toNat < 0x80 := by simpa [isAscii] using h
  simp only [encodeUtf8Char, if_pos small]

/-! ## Texts -/

theorem decodeStrictFrom_skip (skipped rest : List UInt8) (position : Nat) :
    decodeStrictFrom position skipped.length (skipped ++ rest) =
      decodeStrictFrom (position + skipped.length) 0 rest := by
  induction skipped generalizing position with
  | nil => rfl
  | cons b skipped ih =>
    rw [List.cons_append, List.length_cons, decodeStrictFrom, ih, Nat.add_assoc,
      Nat.add_comm 1 skipped.length]

theorem decodeStrictFrom_encoded (cs : List Char) (position : Nat) :
    decodeStrictFrom position 0 (cs.flatMap encodeUtf8Char) = .ok cs := by
  induction cs generalizing position with
  | nil => rfl
  | cons c rest ih =>
    obtain ⟨b, more, bytes, width, step⟩ := utf8Step_encodeUtf8Char c
    rw [List.flatMap_cons, bytes, List.cons_append, decodeStrictFrom, step]
    show (decodeStrictFrom (position + 1) (utf8Width c - 1) _).map (c :: ·) = _
    rw [← width, decodeStrictFrom_skip, ih]
    rfl

/-- **A text is read back from its bytes.** -/
theorem decodeUtf8_encodeUtf8 (s : String) : decodeUtf8 (encodeUtf8 s) = .ok s := by
  rw [decodeUtf8, encodeUtf8, decodeStrictFrom_encoded]
  show Except.ok (String.ofList s.toList) = _
  rw [String.ofList_toList]

/-! ## Line ends of files -/

theorem unifyNewlineChars_eq_self {cs : List Char} (h : '\r' ∉ cs) : unifyNewlineChars cs = cs := by
  induction cs with
  | nil => rfl
  | cons c rest ih =>
    obtain ⟨here, later⟩ := not_or.mp fun e => h (List.mem_cons.mpr e)
    rw [unifyNewlineChars, ih later]
    · rintro rest rfl
      exact absurd rfl here
    · rintro rfl
      exact absurd rfl here

theorem unifyNewlines_eq_self {s : String} (h : '\r' ∉ s.toList) : unifyNewlines s = s := by
  rw [unifyNewlines, unifyNewlineChars_eq_self h, String.ofList_toList]

end LiveLint.Text
