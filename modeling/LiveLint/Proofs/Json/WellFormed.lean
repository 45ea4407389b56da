import LiveLint.Json.Reader
import LiveLint.Proofs.Number.Digits
import LiveLint.Proofs.Value.Alike

/-! # What readers give

Whatever a reader of JSON returns is a value that a file can hold: its integers are short enough to
be read, its binary numbers are of the format, and its dictionaries have each key once. It goes
down no more levels than may open. -/

namespace LiveLint

namespace Value

/-- A value that a file can hold and that goes down at most so many levels. -/
structure Fits (levels : Nat) (v : Value) : Prop where
  json : v.IsJson
  depth : v.depth ≤ levels

variable {levels : Nat}

theorem Fits.atom {v : Value} (json : v.IsJson) (flat : v.depth = 0) : Fits levels v :=
  ⟨json, flat ▸ Nat.zero_le levels⟩

theorem Fits.list {items : List Value} (h : ∀ v ∈ items, Fits levels v) :
    Fits (levels + 1) (list items) where
  json := .list fun v member => (h v member).json
  depth := Nat.succ_le_succ (depthOfItems_le_iff.mpr fun v member => (h v member).depth)

theorem Fits.ofPairs {pairs : List (String × Value)} (h : ∀ p ∈ pairs, Fits levels p.2) :
    Fits (levels + 1) (dict (Entries.ofPairs pairs)) := by
  have fits : ∀ p ∈ Entries.ofPairs pairs, Fits levels p.2 := fun p member =>
    h p (Entries.mem_of_mem_ofPairs member)
  exact {
    json := .dict (Entries.ofPairs_nodup pairs) fun p member => (fits p member).json
    depth := Nat.succ_le_succ (depthOfEntries_le_iff.mpr fun p member => (fits p member).depth) }

end Value

namespace Json
open Text Number

section

variable {ε α β : Type} {x : Except ε α} {b : β}

theorem bind_ok {f : α → Except ε β} (h : x >>= f = .ok b) : ∃ a, x = .ok a ∧ f a = .ok b := by
  cases x with
  | error e => cases h
  | ok a => exact ⟨a, rfl, h⟩

theorem map_ok {f : α → β} (h : x.map f = .ok b) : ∃ a, x = .ok a ∧ f a = b := by
  cases x with
  | error e => cases h
  | ok a => exact ⟨a, rfl, Except.ok.inj h⟩

end

/-! ## Numbers and words -/

theorem takeWhole_digits {cs whole rest : List Char} (h : takeWhole cs = some (whole, rest)) :
    (∀ c ∈ whole, isAsciiDigit c) ∧ whole ≠ [] := by
  rw [takeWhole.eq_def] at h
  split at h
  next =>
    obtain ⟨rfl, -⟩ := Prod.mk.inj (Option.some.inj h)
    exact ⟨List.forall_mem_singleton.mpr rfl, List.cons_ne_nil _ _⟩
  next c r _ =>
    split at h
    next digit =>
      obtain ⟨rfl, -⟩ := Prod.mk.inj (Option.some.inj h)
      exact ⟨List.forall_mem_cons.mpr ⟨digit, List.all_eq_true.mp List.all_takeWhile⟩,
        List.cons_ne_nil _ _⟩
    next => cases h
  next => cases h

theorem readNumber_fits {cs rest : List Char} {v : Value} (h : readNumber cs = .ok (v, rest))
    (levels : Nat) : v.Fits levels := by
  unfold readNumber at h
  split at h
  split at h
  · cases h
  next whole _ taken =>
    split at h
    split at h
    split at h
    · split at h
      · cases h
      next short =>
        obtain ⟨digits, filled⟩ := takeWhole_digits taken
        obtain ⟨rfl, -⟩ := Prod.mk.inj (Except.ok.inj h)
        have count := length_digitsOfNat_natOfDigits_le digits filled
        refine .atom (.int ?_) rfl
        split
        · rw [Int.natAbs_neg, Int.natAbs_natCast]
          omega
        · rw [Int.natAbs_natCast]
          omega
    · obtain ⟨rfl, -⟩ := Prod.mk.inj (Except.ok.inj h)
      exact .atom (.float (Binary64.isDouble_ofDecimal _ _ _ _)) rfl

theorem readWord_fits {cs rest : List Char} {v : Value} (h : readWord? cs = some (v, rest))
    (levels : Nat) : v.Fits levels := by
  rw [readWord?.eq_def] at h
  split at h
  next => obtain ⟨rfl, -⟩ := Prod.mk.inj (Option.some.inj h); exact .atom .null rfl
  next => obtain ⟨rfl, -⟩ := Prod.mk.inj (Option.some.inj h); exact .atom (.bool true) rfl
  next => obtain ⟨rfl, -⟩ := Prod.mk.inj (Option.some.inj h); exact .atom (.bool false) rfl
  iterate 3 next =>
    obtain ⟨rfl, -⟩ := Prod.mk.inj (Option.some.inj h)
    exact .atom (.float trivial) rfl
  next => cases h

/-! ## Values with parts -/

/-- What a reader returns with so much fuel is well-formed and no deeper than it may be. -/
structure Sound (fuel : Nat) : Prop where
  value : ∀ {levels cs v rest}, readValue fuel levels cs = .ok (v, rest) → v.Fits levels
  items : ∀ {levels cs items rest},
    readItems fuel levels cs = .ok (items, rest) → ∀ v ∈ items, v.Fits levels
  entries : ∀ {levels cs entries rest},
    readEntries fuel levels cs = .ok (entries, rest) → ∀ p ∈ entries, p.2.Fits levels

theorem Sound.readValue {fuel levels : Nat} {cs rest : List Char} {v : Value} (sound : Sound fuel)
    (h : readValue (fuel + 1) levels cs = .ok (v, rest)) : v.Fits levels := by
  rw [readValue.eq_def] at h
  dsimp only at h
  split at h
  next =>
    obtain ⟨p, -, same⟩ := map_ok h
    obtain ⟨rfl, -⟩ := Prod.mk.inj same
    exact .atom (.text _) rfl
  next =>
    split at h
    next => cases h
    next opens _ =>
      obtain ⟨rfl, -⟩ := Prod.mk.inj (Except.ok.inj h)
      obtain ⟨below, rfl⟩ := Nat.exists_eq_succ_of_ne_zero opens
      exact .list (List.forall_mem_nil _)
    next =>
      obtain ⟨p, read, same⟩ := map_ok h
      obtain ⟨rfl, -⟩ := Prod.mk.inj same
      exact .list (sound.items read)
  next =>
    split at h
    next => cases h
    next opens _ =>
      obtain ⟨rfl, -⟩ := Prod.mk.inj (Except.ok.inj h)
      obtain ⟨below, rfl⟩ := Nat.exists_eq_succ_of_ne_zero opens
      exact .ofPairs (List.forall_mem_nil _)
    next =>
      obtain ⟨p, read, same⟩ := map_ok h
      obtain ⟨rfl, -⟩ := Prod.mk.inj same
      exact .ofPairs (sound.entries read)
  next =>
    split at h
    next word =>
      obtain rfl := Except.ok.inj h
      exact readWord_fits word levels
    next => exact readNumber_fits h levels

theorem Sound.readItems {fuel levels : Nat} {cs rest : List Char} {items : List Value}
    (sound : Sound fuel) (h : readItems (fuel + 1) levels cs = .ok (items, rest)) :
    ∀ v ∈ items, v.Fits levels := by
  rw [Json.readItems] at h
  obtain ⟨⟨v, r⟩, first, h⟩ := bind_ok h
  dsimp only at h
  split at h
  next =>
    obtain ⟨rfl, -⟩ := Prod.mk.inj (Except.ok.inj h)
    exact List.forall_mem_singleton.mpr (sound.value first)
  next =>
    obtain ⟨⟨items, r⟩, more, h⟩ := bind_ok h
    obtain ⟨rfl, -⟩ := Prod.mk.inj (Except.ok.inj h)
    exact List.forall_mem_cons.mpr ⟨sound.value first, sound.items more⟩
  next => cases h

theorem Sound.readEntries {fuel levels : Nat} {cs rest : List Char} {entries : Entries}
    (sound : Sound fuel) (h : readEntries (fuel + 1) levels cs = .ok (entries, rest)) :
    ∀ p ∈ entries, p.2.Fits levels := by
  rw [Json.readEntries.eq_def] at h
  dsimp only at h
  split at h
  next =>
    obtain ⟨⟨key, r⟩, -, h⟩ := bind_ok h
    dsimp only at h
    split at h
    next =>
      obtain ⟨⟨v, r⟩, first, h⟩ := bind_ok h
      dsimp only at h
      split at h
      next =>
        obtain ⟨rfl, -⟩ := Prod.mk.inj (Except.ok.inj h)
        exact List.forall_mem_singleton.mpr (sound.value first)
      next =>
        obtain ⟨⟨entries, r⟩, more, h⟩ := bind_ok h
        obtain ⟨rfl, -⟩ := Prod.mk.inj (Except.ok.inj h)
        exact List.forall_mem_cons.mpr ⟨sound.value first, sound.entries more⟩
      next => cases h
    next => cases h
  next => cases h

theorem sound (fuel : Nat) : Sound fuel := by
  induction fuel with
  | zero =>
    refine ⟨fun h => ?_, fun h => ?_, fun h => ?_⟩
    · rw [Json.readValue] at h; cases h
    · rw [Json.readItems] at h; cases h
    · rw [Json.readEntries] at h; cases h
  | succ fuel ih => exact ⟨ih.readValue, ih.readItems, ih.readEntries⟩

theorem readDocument_fits {doc : List Char} {v : Value} (h : readDocument doc = .ok v) :
    v.Fits Descent.limit := by
  rw [readDocument.eq_def] at h
  split at h
  next => cases h
  next =>
    obtain ⟨⟨w, r⟩, read, h⟩ := bind_ok h
    dsimp only at h
    split at h
    next =>
      obtain rfl := Except.ok.inj h
      exact (sound _).value read
    next => cases h

/-- **What a document holds is well-formed.** -/
theorem isJson_readDocument {doc : List Char} {v : Value} (h : readDocument doc = .ok v) :
    v.IsJson := (readDocument_fits h).json

theorem read_fits {s : String} {v : Value} (h : read s = .ok v) : v.Fits Descent.limit := by
  rw [read] at h
  cases document : readDocument s.toList with
  | error e =>
    rw [document] at h
    cases h
  | ok w =>
    rw [document] at h
    exact Except.ok.inj h ▸ readDocument_fits document

/-! ## Too many levels -/

/-- One bracket more than levels may open stops the reader. -/
theorem readValue_brackets {levels fuel : Nat} (enough : 2 * levels < fuel) (rest : List Char) :
    readValue fuel levels (List.replicate (levels + 1) '[' ++ rest) =
      .error (.tooDeep .readingList) := by
  induction levels generalizing fuel with
  | zero =>
    obtain ⟨fuel, rfl⟩ : ∃ n, fuel = n + 1 := ⟨fuel - 1, by omega⟩
    rfl
  | succ levels ih =>
    obtain ⟨fuel, rfl⟩ : ∃ n, fuel = n + 2 := ⟨fuel - 2, by omega⟩
    have inner := @ih fuel (by omega)
    rw [List.replicate_succ, List.cons_append] at inner ⊢
    show (readItems (fuel + 1) levels ('[' :: (List.replicate levels '[' ++ rest))).map _ = _
    rw [readItems, inner]
    rfl

theorem read_brackets (rest : List Char) :
    read (String.ofList (List.replicate (Descent.limit + 1) '[' ++ rest)) =
      .error (.tooDeep .readingList) := by
  generalize document : List.replicate (Descent.limit + 1) '[' ++ rest = doc
  have enough : 2 * Descent.limit < 2 * doc.length + 2 := by
    rw [← document, List.length_append, List.length_replicate]
    omega
  have stops := readValue_brackets enough rest
  rw [List.replicate_succ, List.cons_append] at document
  rw [List.replicate_succ, List.cons_append, document] at stops
  have space : skipSpace doc = doc := by
    rw [← document]
    rfl
  have read : readDocument doc = .error (.tooDeep .readingList) := by
    rw [readDocument.eq_def]
    split
    next => cases document
    next => rw [space, stops]; rfl
  rw [Json.read, String.toList_ofList, read]
  rfl

end Json
end LiveLint
