import LiveLint.Proofs.Lint.Decoding
import LiveLint.Proofs.Lint.Range
import LiveLint.Proofs.Text.LowerCase

/-! # The form of decoded findings

Findings are decoded into one form: their positions are in the document and in order, their
message is there and trimmed, and their kind is written as kinds are compared. Nothing that is
done to findings later changes what is in this form. -/

namespace LiveLint

/-- A finding as it should be decoded. -/
structure Finding.IsNormal (a : Finding) : Prop where
  range : a.range.IsNormal
  message : a.message ≠ ""
  trimmed : Text.trim a.message = a.message
  kind : Text.lower (Text.trim a.kind) = a.kind

theorem Finding.IsNormal.normalize_eq {a : Finding} (h : a.IsNormal) : a.normalize = a := by
  rw [normalize, h.range.normalize_eq]

@[simp] theorem Finding.normalize_message (a : Finding) : a.normalize.message = a.message := rfl

@[simp] theorem Finding.normalize_kind (a : Finding) : a.normalize.kind = a.kind := rfl

namespace Response

/-! ## Entries -/

theorem decodeMessage_ne_empty (raw : Value) : decodeMessage raw ≠ "" := by
  unfold decodeMessage
  dsimp only
  split
  · decide
  next filled =>
    intro empty
    exact filled (String.isEmpty_iff.mpr empty)

theorem trim_decodeMessage (raw : Value) : Text.trim (decodeMessage raw) = decodeMessage raw := by
  unfold decodeMessage
  dsimp only
  split
  · decide +kernel
  · exact Text.trim_trim _

theorem lower_trim_kindName (v : Value) : Text.lower (Text.trim (kindName v)) = kindName v :=
  Text.lower_trim_lower_trim v.displayOrEmpty

@[simp] theorem describe_message (raw : Value) (range : TextRange) :
    (describe raw range).message = decodeMessage raw := by
  rw [describe]

@[simp] theorem describe_kind (raw : Value) (range : TextRange) :
    (describe raw range).kind = kindName (raw.field "kind") := by
  rw [describe]

theorem describe_isNormal (raw : Value) (range : TextRange) :
    (describe raw range).normalize.IsNormal where
  range := range.normalize_isNormal
  message := by
    rw [Finding.normalize_message, describe_message]
    exact decodeMessage_ne_empty raw
  trimmed := by
    rw [Finding.normalize_message, describe_message]
    exact trim_decodeMessage raw
  kind := by
    rw [Finding.normalize_kind, describe_kind]
    exact lower_trim_kindName (raw.field "kind")

/-- A decoded finding is what its entry describes. -/
theorem exists_describe {raw : Value} {a : Finding} (h : decodeFinding raw = .ok (some a)) :
    ∃ range, a = (describe raw range).normalize := by
  by_cases endless : EndlessEntry raw
  · rw [decodeFinding_endless endless] at h
    cases h
  by_cases position : HasPosition raw
  · obtain ⟨p, q, -, -, decoded⟩ := decodeFinding_places position endless
    rw [decoded] at h
    exact ⟨⟨p, q⟩, (Option.some.inj (Except.ok.inj h)).symm⟩
  · rw [decodeFinding_skipped position] at h
    cases h

theorem finding?_eq_some {raw : Value} {a : Finding} :
    finding? raw = some a ↔ decodeFinding raw = .ok (some a) := by
  rw [finding?]
  cases decodeFinding raw <;> simp [Except.toOption]

theorem finding?_isNormal {raw : Value} {a : Finding} (h : finding? raw = some a) : a.IsNormal := by
  obtain ⟨range, rfl⟩ := exists_describe (finding?_eq_some.mp h)
  exact describe_isNormal raw range

/-! ## Lists -/

/-- The plain answer that lists entries. -/
def listing (items : List Value) : Value := .dict [("Lints", .list items)]

theorem lists_listing (items : List Value) : Lists (listing items) items := ⟨_, rfl, rfl⟩

theorem decodeFindings_ok_iff {items : List Value} {found : List Finding} :
    decodeFindings items = .ok found ↔
      (∀ raw ∈ items, ¬ EndlessEntry raw) ∧ items.filterMap finding? = found := by
  constructor
  · intro decoded
    have finite : ∀ raw ∈ items, ¬ EndlessEntry raw := by
      intro raw hr endless
      rw [decodeFindings_endless ⟨raw, hr, endless⟩] at decoded
      cases decoded
    rw [decodeFindings_eq finite] at decoded
    exact ⟨finite, Except.ok.inj decoded⟩
  · rintro ⟨finite, rfl⟩
    exact decodeFindings_eq finite

theorem decode_listing_iff {items : List Value} {found : List Finding} :
    decode (listing items) = .ok (.success found) ↔
      (∀ raw ∈ items, ¬ EndlessEntry raw) ∧ items.filterMap finding? = found := by
  rw [decode_lists (lists_listing items), ← decodeFindings_ok_iff]
  cases decodeFindings items <;> simp [Except.map]

theorem listing_success {items : List Value} {o : Outcome} (h : decode (listing items) = .ok o) :
    ∃ found, o = .success found := by
  rw [decode_lists (lists_listing items)] at h
  cases decoded : decodeFindings items with
  | error f => rw [decoded] at h; cases h
  | ok found => rw [decoded] at h; exact ⟨found, (Except.ok.inj h).symm⟩

/-- Findings come from a list only. -/
theorem decode_success {payload : Value} {found : List Finding}
    (h : decode payload = .ok (.success found)) :
    ∃ items, Lists payload items ∧ items.filterMap finding? = found := by
  obtain ⟨items, lists⟩ | ⟨error, reports⟩ | unknown := answer_cases payload
  · refine ⟨items, lists, ?_⟩
    rw [decode_lists lists] at h
    cases decoded : decodeFindings items with
    | error f => rw [decoded] at h; cases h
    | ok xs =>
      rw [decoded] at h
      obtain rfl : xs = found := Outcome.success.inj (Except.ok.inj h)
      exact (decodeFindings_ok_iff.mp decoded).2
  · obtain ⟨located, -, decoded⟩ := decode_reports reports
    rw [decoded] at h
    cases read : decodePoint (errorPosition error) origin <;> rw [read] at h <;> cases h
  · obtain ⟨detail, decoded⟩ := decode_unknown unknown
    rw [decoded] at h
    cases h

theorem decode_isNormal {payload : Value} {found : List Finding}
    (h : decode payload = .ok (.success found)) : ∀ a ∈ found, a.IsNormal := by
  obtain ⟨items, -, rfl⟩ := decode_success h
  intro a ha
  obtain ⟨raw, -, entry⟩ := List.mem_filterMap.mp ha
  exact finding?_isNormal entry

theorem decode_listing_append {xs ys : List Value} {as bs : List Finding}
    (hx : decode (listing xs) = .ok (.success as)) (hy : decode (listing ys) = .ok (.success bs)) :
    decode (listing (xs ++ ys)) = .ok (.success (as ++ bs)) := by
  obtain ⟨finite, rfl⟩ := decode_listing_iff.mp hx
  obtain ⟨finite', rfl⟩ := decode_listing_iff.mp hy
  exact decode_listing_iff.mpr
    ⟨List.forall_mem_append.mpr ⟨finite, finite'⟩, List.filterMap_append⟩

theorem decodeFindings_skip {raw : Value} (h : ¬ HasPosition raw) (xs ys : List Value) :
    decodeFindings (xs ++ raw :: ys) = decodeFindings (xs ++ ys) := by
  induction xs with
  | nil =>
    rw [List.nil_append, decodeFindings_cons, decodeFinding_skipped h]
    show (decodeFindings ys >>= fun others => .ok others) = decodeFindings ys
    cases decodeFindings ys <;> rfl
  | cons first rest ih => rw [List.cons_append, decodeFindings_cons, ih]; rfl

/-- An entry without a position makes no difference. -/
theorem decode_listing_skip {raw : Value} (h : ¬ HasPosition raw) (xs ys : List Value) :
    decode (listing (xs ++ raw :: ys)) = decode (listing (xs ++ ys)) := by
  rw [decode_lists (lists_listing _), decode_lists (lists_listing _), decodeFindings_skip h]

theorem not_hasPosition_of_not_isDict {raw : Value} (h : raw.isDict = false) :
    ¬ HasPosition raw := by
  cases raw with
  | dict _ => cases h
  | null | bool _ | int _ | float _ | text _ | list _ => intro position; cases position

end Response
end LiveLint
