import LiveLint.Json.Reader
import LiveLint.Proofs.Text.Encoding
import LiveLint.Text.Form
import LiveLint.Text.Split

/-! # Forms are read back

A form is fields with `&` between them, each a name and a value with `=` between the two. Names and
values are escaped byte by byte. What is escaped is letters, digits and six signs; neither `&` nor
`=` is one of them, and the escapes of `+` and `%` are not taken for what these signs stand for in a
form. So a field with any name and any value is read back from the form that is made of it. -/

namespace LiveLint.Text

/-! ## Reading -/

/-- The bytes that an escaped text stands for: a space for a plus sign, one byte for a percent sign
and two hexadecimal digits. A percent sign without digits stands for nothing. -/
def formBytes? : List Char → Option (List UInt8)
  | [] => some []
  | c :: r =>
    if c = '%' then match r with
      | high :: low :: rest => do
        let byte := 16 * (← Json.hexValue? high) + (← Json.hexValue? low)
        (formBytes? rest).map (UInt8.ofNat byte :: ·)
      | _ => none
    else (formBytes? r).map ((if c = '+' then [32] else encodeUtf8Char c) ++ ·)

def formText? (cs : List Char) : Option String := do
  let bytes ← formBytes? cs
  (decodeUtf8 bytes).toOption

/-- The name and the value on the two sides of the first equals sign. -/
def formField? (cs : List Char) : Option (String × String) := do
  let name ← formText? (cs.takeWhile (· != '='))
  let value ← formText? ((cs.dropWhile (· != '=')).drop 1)
  some (name, value)

/-- The fields of a form; none if one of them cannot be read. Empty ones do not count. -/
def formFields? (form : String) : Option (List (String × String)) :=
  ((splitFrom '&' [] form.toList).filter (!·.isEmpty)).mapM formField?

/-! ## Bytes -/

theorem upperHexDigit_spec : ∀ k < 16,
    Json.hexValue? (upperHexDigit k) = some k ∧ isFormSafe (upperHexDigit k).toNat = true := by
  decide

theorem toNat_of_isFormSafe {n : Nat} (h : isFormSafe n = true) :
    (Char.ofNat n).toNat = n ∧ n < 0x80 := by
  have small : n < 0x80 := by
    simp only [isFormSafe, Bool.or_eq_true, Bool.and_eq_true, decide_eq_true_eq, beq_iff_eq] at h
    omega
  rw [Char.ofNat, dif_pos (Or.inl (by omega))]
  exact ⟨rfl, small⟩

/-- The characters of what is escaped. -/
def isFormChar (c : Char) : Bool := isFormSafe c.toNat || c == '+' || c == '%'

theorem isFormChar_iff {c : Char} :
    isFormChar c = true ↔ isFormSafe c.toNat = true ∨ c = '+' ∨ c = '%' := by
  simp [isFormChar, or_assoc]

theorem isFormChar_of_mem_formByte {b : UInt8} {c : Char} (h : c ∈ formByte b) :
    isFormChar c = true := by
  rw [isFormChar_iff]
  unfold formByte at h
  dsimp only at h
  split at h
  next safe =>
    obtain rfl := List.mem_singleton.mp h
    rw [(toNat_of_isFormSafe safe).1]
    exact .inl safe
  next =>
    split at h
    next => exact .inr (.inl (List.mem_singleton.mp h))
    next =>
      have byte : b.toNat < 256 := b.toNat_lt
      obtain rfl | rfl | rfl : c = '%' ∨ c = upperHexDigit (b.toNat / 16) ∨
          c = upperHexDigit (b.toNat % 16) := by simpa using h
      · exact .inr (.inr rfl)
      · exact .inl (upperHexDigit_spec _ (by omega)).2
      · exact .inl (upperHexDigit_spec _ (by omega)).2

theorem isAscii_of_isFormChar {c : Char} (h : isFormChar c = true) : isAscii c = true := by
  rcases isFormChar_iff.mp h with safe | rfl | rfl
  · exact decide_eq_true (toNat_of_isFormSafe safe).2
  · rfl
  · rfl

theorem formBytes?_of_ne {c : Char} (h : c ≠ '%') (r : List Char) :
    formBytes? (c :: r) =
      (formBytes? r).map ((if c = '+' then [32] else encodeUtf8Char c) ++ ·) := by
  rw [formBytes?.eq_def]
  exact if_neg h

theorem formBytes?_percent {high low : Char} {m n : Nat} (hm : Json.hexValue? high = some m)
    (hn : Json.hexValue? low = some n) (rest : List Char) :
    formBytes? ('%' :: high :: low :: rest) =
      (formBytes? rest).map (UInt8.ofNat (16 * m + n) :: ·) := by
  rw [formBytes?.eq_def]
  dsimp only
  rw [if_pos rfl, hm, hn]
  rfl

/-- An escaped byte stands for that byte. -/
theorem formBytes?_formByte (b : UInt8) (rest : List Char) :
    formBytes? (formByte b ++ rest) = (formBytes? rest).map (b :: ·) := by
  unfold formByte
  dsimp only
  split
  next safe =>
    obtain ⟨code, small⟩ := toNat_of_isFormSafe safe
    have other {sign : Char} (escaped : isFormSafe sign.toNat = false) :
        Char.ofNat b.toNat ≠ sign := by
      intro same
      rw [← same, code, safe] at escaped
      cases escaped
    have ascii : isAscii (Char.ofNat b.toNat) := by
      rw [isAscii, code]
      exact decide_eq_true small
    rw [List.singleton_append, formBytes?_of_ne (other rfl), if_neg (other rfl),
      encodeUtf8Char_ascii ascii, code, UInt8.ofNat_toNat]
    rfl
  next =>
    split
    next space =>
      obtain rfl : b = 32 := UInt8.toNat_inj.mp space
      exact formBytes?_of_ne (by decide) rest
    next =>
      have byte : b.toNat < 256 := b.toNat_lt
      have high := (upperHexDigit_spec (b.toNat / 16) (by omega)).1
      have low := (upperHexDigit_spec (b.toNat % 16) (by omega)).1
      show formBytes? ('%' :: _ :: _ :: rest) = _
      rw [formBytes?_percent high low, Nat.div_add_mod, UInt8.ofNat_toNat]

theorem formBytes?_flatMap (bytes : List UInt8) :
    formBytes? (bytes.flatMap formByte) = some bytes := by
  induction bytes with
  | nil => rfl
  | cons b bytes ih =>
    rw [List.flatMap_cons, formBytes?_formByte, ih]
    rfl

/-! ## Texts -/

theorem formText?_formEncode (s : String) : formText? (formEncode s).toList = some s := by
  rw [formText?, formEncode, String.toList_ofList, formBytes?_flatMap]
  show (decodeUtf8 (encodeUtf8 s)).toOption = _
  rw [decodeUtf8_encodeUtf8]
  rfl

theorem isFormChar_of_mem_formEncode {s : String} {c : Char} (h : c ∈ (formEncode s).toList) :
    isFormChar c = true := by
  rw [formEncode, String.toList_ofList] at h
  obtain ⟨b, -, member⟩ := List.mem_flatMap.mp h
  exact isFormChar_of_mem_formByte member

theorem not_mem_formEncode {c : Char} (h : isFormChar c = false) (s : String) :
    c ∉ (formEncode s).toList := by
  intro member
  rw [isFormChar_of_mem_formEncode member] at h
  cases h

theorem splitFrom_of_not_mem {separator : Char} {cs : List Char} (h : separator ∉ cs)
    (part : List Char) : splitFrom separator part cs = [part.reverse ++ cs] := by
  induction cs generalizing part with
  | nil => rw [splitFrom, List.append_nil]
  | cons c r ih =>
    obtain ⟨here, later⟩ := not_or.mp fun e => h (List.mem_cons.mpr e)
    rw [splitFrom, if_neg (Ne.symm here), ih later, List.reverse_cons, List.append_assoc]
    rfl

/-- The form of one field. -/
def oneField (name value : String) : String := formEncode name ++ "=" ++ formEncode value

theorem toList_oneField (name value : String) :
    (oneField name value).toList =
      (formEncode name).toList ++ '=' :: (formEncode value).toList := by
  rw [oneField, String.toList_append, String.toList_append, List.append_assoc]
  rfl

theorem isAscii_of_mem_oneField {name value : String} {c : Char}
    (h : c ∈ (oneField name value).toList) : isAscii c = true := by
  rw [toList_oneField] at h
  rcases List.mem_append.mp h with inName | inRest
  · exact isAscii_of_isFormChar (isFormChar_of_mem_formEncode inName)
  rcases List.mem_cons.mp inRest with rfl | inValue
  · rfl
  · exact isAscii_of_isFormChar (isFormChar_of_mem_formEncode inValue)

theorem formField?_oneField (name value : String) :
    formField? (oneField name value).toList = some (name, value) := by
  have inName : ∀ c ∈ (formEncode name).toList, (c != '=') = true := by
    intro c member
    rw [bne_iff_ne]
    rintro rfl
    exact not_mem_formEncode (by decide) name member
  have before : (oneField name value).toList.takeWhile (· != '=') = (formEncode name).toList := by
    rw [toList_oneField, List.takeWhile_append_of_pos inName]
    simp
  have after : (oneField name value).toList.dropWhile (· != '=') =
      '=' :: (formEncode value).toList := by
    rw [toList_oneField, List.dropWhile_append_of_pos inName]
    simp
  rw [formField?, before, after, formText?_formEncode, List.drop_one, List.tail_cons,
    formText?_formEncode]
  rfl

/-- **A field is read back from its form.** -/
theorem formFields?_oneField (name value : String) :
    formFields? (oneField name value) = some [(name, value)] := by
  have apart : '&' ∉ (oneField name value).toList := by
    rw [toList_oneField, List.mem_append, List.mem_cons, not_or, not_or]
    exact ⟨not_mem_formEncode (by decide) name, by decide, not_mem_formEncode (by decide) value⟩
  have filled : (oneField name value).toList.isEmpty = false := by
    rw [toList_oneField]
    simp
  rw [formFields?, splitFrom_of_not_mem apart, List.reverse_nil, List.nil_append,
    List.filter_cons_of_pos (by rw [filled]; rfl), List.filter_nil, List.mapM_cons,
    formField?_oneField]
  rfl

end LiveLint.Text
