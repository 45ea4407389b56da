import LiveLint.Proofs.Json.RoundTrip
import LiveLint.Proofs.Text.Encoding

/-! # Documents

A printed value is a document in ASCII, in lines that end as files have them, and a reader of
documents gives the value back. -/

namespace LiveLint.Json
open LiveLint.Text LiveLint.Number

/-! ## The characters of a document -/

/-- A visible character or the end of a line. -/
def IsPrinted (c : Char) : Prop := isVisible c ∨ c = '\n'

theorem printed_of_visible {cs : List Char} (h : cs.all isVisible) : ∀ c ∈ cs, IsPrinted c :=
  fun c member => .inl (List.all_eq_true.mp h c member)

theorem visible_digit {c : Char} (h : isAsciiDigit c) : isVisible c := by
  simp only [isAsciiDigit, Bool.and_eq_true, decide_eq_true_eq] at h
  have low : 0x30 ≤ c.toNat := h.1
  have high : c.toNat ≤ 0x39 := h.2
  exact isVisible_iff.mpr ⟨by omega, by omega⟩

theorem digits_visible {cs : List Char} (h : ∀ c ∈ cs, isAsciiDigit c) : ∀ c ∈ cs, isVisible c :=
  fun c member => visible_digit (h c member)

theorem sign_visible (negative : Bool) {cs : List Char} (h : ∀ c ∈ cs, isVisible c) :
    ∀ c ∈ sign negative cs, isVisible c := by
  cases negative with
  | true => exact List.forall_mem_cons.mpr ⟨by decide, h⟩
  | false => exact h

theorem fractionPart_visible {fraction : List Char} (h : ∀ c ∈ fraction, isAsciiDigit c) :
    ∀ c ∈ fractionPart fraction, isVisible c := by
  cases fraction with
  | nil => exact List.forall_mem_nil _
  | cons c more => exact List.forall_mem_cons.mpr ⟨by decide, digits_visible h⟩

theorem exponentPart_visible (x? : Option Int) : ∀ c ∈ exponentPart x?, isVisible c := by
  cases x? with
  | none => exact List.forall_mem_nil _
  | some x =>
    obtain ⟨ds, text, digits, -⟩ := exponentText_digits x
    rw [exponentPart, text]
    refine List.forall_mem_cons.mpr ⟨by decide, List.forall_mem_cons.mpr ⟨?_, digits_visible digits⟩⟩
    split <;> decide

theorem printNumber_visible {x : Binary64} (double : x.IsDouble) :
    ∀ c ∈ printNumber x, isVisible c := by
  cases x with
  | nan => exact List.all_eq_true.mp rfl
  | infinite negative =>
    cases negative with
    | true => exact List.all_eq_true.mp rfl
    | false => exact List.all_eq_true.mp rfl
  | finite negative m e =>
    obtain ⟨whole, fraction, x?, hw, digits, text⟩ := printNumber_parts double
    rw [text]
    refine sign_visible negative (List.forall_mem_append.mpr ⟨digits_visible hw.digits, ?_⟩)
    exact List.forall_mem_append.mpr ⟨fractionPart_visible digits, exponentPart_visible x?⟩

theorem newline_printed (depth : Nat) : ∀ c ∈ newline depth, IsPrinted c := by
  refine List.forall_mem_cons.mpr ⟨.inr rfl, fun c member => ?_⟩
  obtain rfl := (List.mem_replicate.mp member).2
  exact .inl (by decide)

theorem printLines_printed (depth : Nat) {parts : List (List Char)}
    (h : ∀ part ∈ parts, ∀ c ∈ part, IsPrinted c) : ∀ c ∈ printLines depth parts, IsPrinted c := by
  induction parts with
  | nil => exact List.forall_mem_nil _
  | cons part parts ih =>
    obtain ⟨here, later⟩ := List.forall_mem_cons.mp h
    have after : ∀ c ∈ linesAfter depth parts, IsPrinted c := by
      cases parts with
      | nil => exact List.forall_mem_nil _
      | cons _ _ => exact List.forall_mem_cons.mpr ⟨.inl (by decide), ih later⟩
    rw [printLines_cons]
    exact List.forall_mem_append.mpr ⟨newline_printed depth, List.forall_mem_append.mpr ⟨here, after⟩⟩

theorem indentedItems_printed {items : List Value} (depth : Nat)
    (h : ∀ v ∈ items, ∀ c ∈ printIndented depth v, IsPrinted c) :
    ∀ part ∈ indentedItems depth items, ∀ c ∈ part, IsPrinted c := by
  rw [indentedItems_eq]
  exact List.forall_mem_map.mpr h

theorem entryText_printed {p : String × Value} (depth : Nat)
    (h : ∀ c ∈ printIndented depth p.2, IsPrinted c) : ∀ c ∈ entryText depth p, IsPrinted c := by
  refine List.forall_mem_append.mpr ⟨fun c member => .inl (mem_printText member), ?_⟩
  exact List.forall_mem_cons.mpr ⟨.inl (by decide), List.forall_mem_cons.mpr ⟨.inl (by decide), h⟩⟩

/-- What stands in brackets is printed with them. -/
theorem bracketed_printed {opening closing : Char} {inner : List Char} (depth : Nat)
    (brackets : isVisible opening ∧ isVisible closing) (h : ∀ c ∈ inner, IsPrinted c) :
    ∀ c ∈ opening :: inner ++ newline depth ++ [closing], IsPrinted c := by
  refine List.forall_mem_append.mpr ⟨List.forall_mem_append.mpr ⟨?_, newline_printed depth⟩, ?_⟩
  · exact List.forall_mem_cons.mpr ⟨.inl brackets.1, h⟩
  · exact List.forall_mem_singleton.mpr (.inl brackets.2)

theorem printIndented_printed {v : Value} (h : v.IsJson) (depth : Nat) :
    ∀ c ∈ printIndented depth v, IsPrinted c := by
  induction h generalizing depth with
  | null => exact printed_of_visible rfl
  | bool b =>
    cases b with
    | true => exact printed_of_visible rfl
    | false => exact printed_of_visible rfl
  | @int n _ =>
    have digits := digits_visible (isWhole_digitsOfNat n.natAbs).digits
    show ∀ c ∈ (toString n).toList, IsPrinted c
    rw [toString_int]
    exact fun c member => .inl (sign_visible _ digits c member)
  | float double => exact fun c member => .inl (printNumber_visible double c member)
  | text s => exact fun c member => .inl (mem_printText member)
  | @list items _ ih =>
    cases items with
    | nil => exact printed_of_visible rfl
    | cons v items =>
      rw [printIndented]
      refine bracketed_printed depth (by decide) (printLines_printed _ ?_)
      exact indentedItems_printed _ fun w member => ih w member _
  | @dict entries _ _ ih =>
    cases entries with
    | nil => exact printed_of_visible rfl
    | cons first others =>
      rw [printIndented, indentedEntries_eq, List.map_map]
      refine bracketed_printed depth (by decide) (printLines_printed _ ?_)
      refine List.forall_mem_map.mpr fun p member => entryText_printed _ ?_
      exact ih p ((sortByName_perm (first :: others)).mem_iff.mp member) _

theorem IsPrinted.ascii {c : Char} (h : IsPrinted c) : isAscii c := by
  rcases h with visible | rfl
  · exact decide_eq_true (Nat.lt_succ_of_lt (isVisible_iff.mp visible).2)
  · decide

theorem IsPrinted.ne_return {c : Char} (h : IsPrinted c) : c ≠ '\r' := by
  rintro rfl
  rcases h with visible | other
  · exact absurd visible (by decide)
  · exact absurd other (by decide)

/-! ## Reading a document -/

/-- **A printed value is read back from its document**, unless it goes too deep. -/
theorem readDocument_printed {v : Value} (json : v.IsJson) (shallow : v.depth ≤ Descent.limit) :
    readDocument (printIndented 0 v) = .ok v.sorted := by
  have begins := printIndented_begins json 0
  have enough : (printIndented 0 v).length ≤ 2 * (printIndented 0 v).length + 2 := by omega
  have read := reads json 0 _ Descent.limit [] shallow enough .nothing
  rw [List.append_nil] at read
  have noMark : ∀ r, printIndented 0 v ≠ '\ufeff' :: r := by
    intro r e
    have ascii := (printIndented_printed json 0 '\ufeff' (e ▸ List.mem_cons_self)).ascii
    exact absurd ascii (by decide)
  rw [readDocument.eq_def]
  split
  next r e => exact absurd e (noMark r)
  next =>
    rw [begins.skipSpace_eq, read]
    rfl

theorem read_indented {v : Value} (json : v.IsJson) (shallow : v.depth ≤ Descent.limit) :
    read (indented v) = .ok v.sorted := by
  rw [read, indented, String.toList_ofList, readDocument_printed json shallow]
  rfl

end LiveLint.Json
