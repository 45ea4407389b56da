import LiveLint.Proofs.Json.Number
import LiveLint.Proofs.Json.Text
import LiveLint.Proofs.Value.Alike

/-! # Reading what was printed

Whatever a settings file can hold is read back from its printed form, with the keys of each
dictionary in order. The proof follows the value: its parts are read one after the other, each up to
the comma or the new line behind it. -/

namespace LiveLint.Json
open LiveLint.Text LiveLint.Number

/-! ## Space -/

theorem skipSpace_cons {c : Char} (h : isSpace c = false) (r : List Char) :
    skipSpace (c :: r) = c :: r :=
  List.dropWhile_cons_of_neg (by simp [h])

theorem skipSpace_newline (depth : Nat) (cs : List Char) :
    skipSpace (newline depth ++ cs) = skipSpace cs := by
  refine List.dropWhile_append_of_pos fun c hc => ?_
  rcases List.mem_cons.mp hc with rfl | hc
  · rfl
  · obtain rfl := (List.mem_replicate.mp hc).2
    rfl

/-! ## Beginnings -/

/-- The text begins neither with a space nor with the end of a list or dictionary. -/
def Begins (cs : List Char) : Prop :=
  ∃ c r, cs = c :: r ∧ isSpace c = false ∧ c ≠ ']' ∧ c ≠ '\x7d'

theorem Begins.append {cs : List Char} (h : Begins cs) (more : List Char) : Begins (cs ++ more) := by
  obtain ⟨c, r, rfl, begins⟩ := h
  exact ⟨c, r ++ more, rfl, begins⟩

theorem Begins.skipSpace_eq {cs : List Char} (h : Begins cs) : skipSpace cs = cs := by
  obtain ⟨c, r, rfl, solid, -⟩ := h
  exact skipSpace_cons solid r

theorem digit_ne {c d : Char} (h : isAsciiDigit c) (hd : isAsciiDigit d = false) : c ≠ d := by
  rintro rfl
  rw [h] at hd
  cases hd

theorem isSpace_digit {c : Char} (h : isAsciiDigit c) : isSpace c = false := by
  have other {d : Char} (hd : isAsciiDigit d = false) : (c == d) = false :=
    beq_eq_false_iff_ne.mpr (digit_ne h hd)
  rw [isSpace, other (by decide), other (by decide), other (by decide), other (by decide)]
  rfl

theorem sign_begins (negative : Bool) {whole : List Char} (hw : IsWhole whole) (more : List Char) :
    Begins (sign negative (whole ++ more)) := by
  cases negative with
  | true => exact ⟨'-', _, rfl, by decide⟩
  | false =>
    obtain ⟨digits, filled, -⟩ := hw
    obtain ⟨c, r, rfl⟩ := List.exists_cons_of_ne_nil filled
    have digit := digits c List.mem_cons_self
    exact ⟨c, r ++ more, rfl, isSpace_digit digit, digit_ne digit (by decide),
      digit_ne digit (by decide)⟩

theorem readWord?_digit {c : Char} (h : isAsciiDigit c) (r : List Char) :
    readWord? (c :: r) = none := by
  rw [readWord?.eq_def]
  split
  iterate 6 next e => exact absurd (List.cons.inj e).1 (digit_ne h (by decide))
  next => rfl

theorem readWord?_minus {c : Char} (h : isAsciiDigit c) (r : List Char) :
    readWord? ('-' :: c :: r) = none := by
  rw [readWord?.eq_def]
  split
  iterate 5 next e => cases e
  next e => exact absurd (List.cons.inj (List.cons.inj e).2).1 (digit_ne h (by decide))
  next => rfl

theorem readValue_other (fuel levels : Nat) {c : Char} (r : List Char) (quote : c ≠ '"')
    (list : c ≠ '[') (dict : c ≠ '\x7b') :
    readValue (fuel + 1) levels (c :: r) = match readWord? (c :: r) with
      | some p => .ok p
      | none => readNumber (c :: r) := by
  rw [readValue.eq_def]
  dsimp only
  split
  next e => exact absurd (List.cons.inj e).1 quote
  next e => exact absurd (List.cons.inj e).1 list
  next e => exact absurd (List.cons.inj e).1 dict
  next => rfl

/-- Numbers are read as numbers: no other value begins with a sign and a digit. -/
theorem readValue_number (fuel levels : Nat) (negative : Bool) {whole : List Char}
    (hw : IsWhole whole) (more : List Char) :
    readValue (fuel + 1) levels (sign negative (whole ++ more)) =
      readNumber (sign negative (whole ++ more)) := by
  obtain ⟨digits, filled, -⟩ := hw
  obtain ⟨c, r, rfl⟩ := List.exists_cons_of_ne_nil filled
  have digit := digits c List.mem_cons_self
  cases negative with
  | true =>
    show readValue (fuel + 1) levels ('-' :: c :: (r ++ more)) = _
    rw [readValue_other _ _ _ (by decide) (by decide) (by decide), readWord?_minus digit]
    rfl
  | false =>
    show readValue (fuel + 1) levels (c :: (r ++ more)) = _
    rw [readValue_other _ _ _ (digit_ne digit (by decide)) (digit_ne digit (by decide))
      (digit_ne digit (by decide)), readWord?_digit digit]
    rfl

/-! ## Values without parts -/

/-- A value is read from its printed form, wherever that stands. -/
def Reads (v : Value) : Prop :=
  ∀ (depth fuel levels : Nat) (rest : List Char), v.depth ≤ levels →
    (printIndented depth v).length ≤ fuel → Follows rest →
    readValue fuel levels (printIndented depth v ++ rest) = .ok (v.sorted, rest)

/-- A text is read with some fuel. -/
theorem exists_fuel {cs : List Char} {fuel : Nat} (begins : Begins cs) (h : cs.length ≤ fuel) :
    ∃ n, fuel = n + 1 := by
  obtain ⟨c, r, rfl, -⟩ := begins
  rw [List.length_cons] at h
  exact ⟨fuel - 1, by omega⟩

theorem printText_begins (s : String) : Begins (printText s) := ⟨'"', _, rfl, by decide⟩

theorem int_begins (n : Int) : Begins (toString n).toList := by
  have begins := sign_begins (n < 0) (isWhole_digitsOfNat n.natAbs) []
  rw [List.append_nil, ← toString_int] at begins
  exact begins

theorem float_begins {x : Binary64} (double : x.IsDouble) : Begins (printNumber x) := by
  cases x with
  | nan => exact ⟨'N', _, rfl, by decide⟩
  | infinite negative =>
    cases negative with
    | true => exact ⟨'-', _, rfl, by decide⟩
    | false => exact ⟨'I', _, rfl, by decide⟩
  | finite negative m e =>
    obtain ⟨whole, fraction, x?, hw, -, text⟩ := printNumber_parts double
    rw [text]
    exact sign_begins negative hw _

theorem printIndented_begins {v : Value} (h : v.IsJson) (depth : Nat) :
    Begins (printIndented depth v) := by
  cases h with
  | null => exact ⟨'n', _, rfl, by decide⟩
  | bool b => cases b <;> exact ⟨_, _, rfl, by decide⟩
  | int short => exact int_begins _
  | float double => exact float_begins double
  | text s => exact printText_begins s
  | @list items h =>
    cases items with
    | nil => exact ⟨'[', _, rfl, by decide⟩
    | cons v rest => exact ⟨'[', _, rfl, by decide⟩
  | @dict entries distinct h =>
    cases entries with
    | nil => exact ⟨'\x7b', _, rfl, by decide⟩
    | cons p rest => exact ⟨'\x7b', _, rfl, by decide⟩

theorem reads_atom {v : Value} (h : v.IsJson) (text : ∀ depth, printIndented depth v = printAtom v)
    (plain : v.sorted = v)
    (read : ∀ (fuel levels : Nat) (rest : List Char), Follows rest →
      readValue (fuel + 1) levels (printAtom v ++ rest) = .ok (v, rest)) : Reads v := by
  intro depth fuel levels rest _ enough follows
  obtain ⟨fuel, rfl⟩ := exists_fuel (printIndented_begins h depth) enough
  rw [text, plain]
  exact read fuel levels rest follows

theorem readValue_null (fuel levels : Nat) (rest : List Char) :
    readValue (fuel + 1) levels (printAtom .null ++ rest) = .ok (.null, rest) := rfl

theorem readValue_bool (b : Bool) (fuel levels : Nat) (rest : List Char) :
    readValue (fuel + 1) levels (printAtom (.bool b) ++ rest) = .ok (.bool b, rest) := by
  cases b <;> rfl

theorem readValue_int {n : Int} (short : (digitsOfNat n.natAbs).length ≤ digitLimit)
    (fuel levels : Nat) {rest : List Char} (h : Follows rest) :
    readValue (fuel + 1) levels (printAtom (.int n) ++ rest) = .ok (.int n, rest) := by
  have read := readNumber_toString short h
  show readValue (fuel + 1) levels ((toString n).toList ++ rest) = _
  rw [toString_int, sign_append] at read ⊢
  rw [readValue_number _ _ _ (isWhole_digitsOfNat _), read]

theorem readValue_float {x : Binary64} (double : x.IsDouble) (fuel levels : Nat) {rest : List Char}
    (h : Follows rest) :
    readValue (fuel + 1) levels (printAtom (.float x) ++ rest) = .ok (.float x, rest) := by
  show readValue (fuel + 1) levels (printNumber x ++ rest) = _
  cases x with
  | nan => rfl
  | infinite negative => cases negative <;> rfl
  | finite negative m e =>
    have read := readNumber_printNumber double h
    obtain ⟨whole, fraction, x?, hw, -, text⟩ := printNumber_parts double
    rw [text, sign_append, List.append_assoc] at read ⊢
    rw [readValue_number _ _ _ hw, read]

theorem readValue_text (s : String) (fuel levels : Nat) (rest : List Char) :
    readValue (fuel + 1) levels (printAtom (.text s) ++ rest) = .ok (.text s, rest) := by
  show readValue (fuel + 1) levels (printText s ++ rest) = _
  rw [printText_append, readValue, readChars_printed]
  show Except.ok (Value.text (String.ofList s.toList), rest) = _
  rw [String.ofList_toList]

/-! ## Lists -/

/-- Printed parts behind the first one. -/
def linesAfter (depth : Nat) : List (List Char) → List Char
  | [] => []
  | parts => ',' :: printLines depth parts

theorem printLines_cons (depth : Nat) (part : List Char) (parts : List (List Char)) :
    printLines depth (part :: parts) = newline depth ++ (part ++ linesAfter depth parts) := by
  cases parts with
  | nil => rw [linesAfter, List.append_nil]; rfl
  | cons next more => exact List.append_assoc _ _ _

theorem linesAfter_cons (depth : Nat) (part : List Char) (parts : List (List Char)) :
    linesAfter depth (part :: parts) =
      ',' :: (newline depth ++ (part ++ linesAfter depth parts)) :=
  congrArg (',' :: ·) (printLines_cons depth part parts)

theorem length_linesAfter_cons (depth : Nat) (part : List Char) (parts : List (List Char)) :
    part.length + (linesAfter depth parts).length + 1 <
      (linesAfter depth (part :: parts)).length := by
  rw [linesAfter_cons]
  simp only [newline, List.length_cons, List.length_append, List.cons_append]
  omega

theorem follows_linesAfter (depth outer : Nat) (parts : List (List Char)) (rest : List Char) :
    Follows (linesAfter depth parts ++ (newline outer ++ rest)) := by
  cases parts with
  | nil => exact .newline _
  | cons next more => exact .comma _

theorem indentedItems_eq (depth : Nat) (items : List Value) :
    indentedItems depth items = items.map (printIndented depth) := by
  induction items with
  | nil => rfl
  | cons v rest ih => rw [indentedItems, ih, List.map_cons]

section

variable {fuel levels : Nat} {cs r r' rest : List Char} {v : Value}

theorem readItems_last (value : readValue fuel levels cs = .ok (v, r))
    (closed : skipSpace r = ']' :: rest) :
    readItems (fuel + 1) levels cs = .ok ([v], rest) := by
  rw [readItems, value]
  simp only [bind, Except.bind, closed]

theorem readItems_more {items : List Value} (value : readValue fuel levels cs = .ok (v, r))
    (comma : skipSpace r = ',' :: r')
    (more : readItems fuel levels (skipSpace r') = .ok (items, rest)) :
    readItems (fuel + 1) levels cs = .ok (v :: items, rest) := by
  rw [readItems, value]
  simp only [bind, Except.bind, comma, more]

theorem readEntries_last {key text : List Char} {opening : Nat}
    (name : readChars opening text = .ok (key, r)) (place : opening = text.length + 1)
    (colon : skipSpace r = ':' :: r') (value : readValue fuel levels (skipSpace r') = .ok (v, cs))
    (closed : skipSpace cs = '\x7d' :: rest) :
    readEntries (fuel + 1) levels ('"' :: text) = .ok ([(String.ofList key, v)], rest) := by
  subst place
  rw [readEntries]
  simp only [List.length_cons, name, bind, Except.bind, colon, value, closed]

theorem readEntries_more {key text tail : List Char} {opening : Nat}
    {entries : List (String × Value)}
    (name : readChars opening text = .ok (key, r)) (place : opening = text.length + 1)
    (colon : skipSpace r = ':' :: r') (value : readValue fuel levels (skipSpace r') = .ok (v, cs))
    (comma : skipSpace cs = ',' :: tail)
    (more : readEntries fuel levels (skipSpace tail) = .ok (entries, rest)) :
    readEntries (fuel + 1) levels ('"' :: text) =
      .ok ((String.ofList key, v) :: entries, rest) := by
  subst place
  rw [readEntries]
  simp only [List.length_cons, name, bind, Except.bind, colon, value, comma, more]

end

theorem skipSpace_closed (depth : Nat) {c : Char} (h : isSpace c = false) (rest : List Char) :
    skipSpace (newline depth ++ c :: rest) = c :: rest := by
  rw [skipSpace_newline, skipSpace_cons h]

/-- The space before a value is skipped. -/
theorem skipSpace_begins {depth : Nat} {cs : List Char} (h : Begins cs) (rest : List Char) :
    skipSpace (newline depth ++ (cs ++ rest)) = cs ++ rest := by
  rw [skipSpace_newline, (h.append rest).skipSpace_eq]

/-- A part of a value that is read where so many levels may open. -/
structure Readable (levels : Nat) (v : Value) : Prop where
  json : v.IsJson
  reads : Reads v
  shallow : v.depth ≤ levels

theorem readItems_printed {levels : Nat} {v : Value} {items : List Value}
    (h : ∀ w ∈ v :: items, Readable levels w) {depth outer fuel : Nat}
    (enough : (printIndented depth v).length +
      (linesAfter depth (items.map (printIndented depth))).length < fuel) (rest : List Char) :
    readItems fuel levels (printIndented depth v ++
      (linesAfter depth (items.map (printIndented depth)) ++ (newline outer ++ ']' :: rest))) =
      .ok ((v :: items).map Value.sorted, rest) := by
  induction items generalizing v fuel with
  | nil =>
    obtain ⟨fuel, rfl⟩ : ∃ n, fuel = n + 1 := ⟨fuel - 1, by omega⟩
    have first := h v List.mem_cons_self
    have value := first.reads depth fuel levels _ first.shallow (by omega)
      (follows_linesAfter depth outer [] (']' :: rest))
    exact readItems_last value (skipSpace_closed outer rfl rest)
  | cons w items ih =>
    obtain ⟨first, others⟩ := List.forall_mem_cons.mp h
    have next := others w List.mem_cons_self
    have longer := length_linesAfter_cons depth (printIndented depth w)
      (items.map (printIndented depth))
    rw [List.map_cons] at enough ⊢
    obtain ⟨fuel, rfl⟩ : ∃ n, fuel = n + 1 := ⟨fuel - 1, by omega⟩
    have value := first.reads depth fuel levels _ first.shallow (by omega)
      (follows_linesAfter depth outer (printIndented depth w :: items.map (printIndented depth))
        (']' :: rest))
    have enoughLater : (printIndented depth w).length +
        (linesAfter depth (items.map (printIndented depth))).length < fuel := by omega
    have more := ih others enoughLater
    rw [linesAfter_cons, List.cons_append, List.append_assoc, List.append_assoc] at value ⊢
    refine readItems_more value (skipSpace_cons rfl _) ?_
    rw [skipSpace_begins (printIndented_begins next.json depth)]
    exact more

theorem readValue_list {fuel levels : Nat} {r r' rest : List Char} {items : List Value}
    (space : skipSpace r = r') (begins : Begins r')
    (read : readItems fuel levels r' = .ok (items, rest)) :
    readValue (fuel + 1) (levels + 1) ('[' :: r) = .ok (.list items, rest) := by
  obtain ⟨c, more, rfl, -, other, -⟩ := begins
  simp only [readValue.eq_def, space]
  split
  next h => cases h
  next h _ => exact absurd (List.cons.inj h).1 other
  next same _ =>
    obtain rfl := Nat.succ.inj same
    rw [read]
    rfl

theorem readValue_dict {fuel levels : Nat} {r r' rest : List Char}
    {entries : List (String × Value)} (space : skipSpace r = r') (begins : Begins r')
    (read : readEntries fuel levels r' = .ok (entries, rest)) :
    readValue (fuel + 1) (levels + 1) ('\x7b' :: r) =
      .ok (.dict (Entries.ofPairs entries), rest) := by
  obtain ⟨c, more, rfl, -, -, other⟩ := begins
  simp only [readValue.eq_def, space]
  split
  next h => cases h
  next h _ => exact absurd (List.cons.inj h).1 other
  next same _ =>
    obtain rfl := Nat.succ.inj same
    rw [read]
    rfl

/-- A printed list or dictionary, taken apart where its parts are read. -/
theorem printed_parts (opening closing : Char) (depth outer : Nat) (part : List Char)
    (parts : List (List Char)) (rest : List Char) :
    (opening :: printLines depth (part :: parts) ++ newline outer ++ [closing]) ++ rest =
      opening :: (newline depth ++
        (part ++ (linesAfter depth parts ++ (newline outer ++ closing :: rest)))) := by
  rw [printLines_cons]
  simp

theorem length_printed_parts (opening closing : Char) (depth outer : Nat) (part : List Char)
    (parts : List (List Char)) :
    part.length + (linesAfter depth parts).length + 1 <
      (opening :: printLines depth (part :: parts) ++ newline outer ++ [closing]).length := by
  rw [printLines_cons]
  simp only [List.cons_append, List.length_cons, List.length_append, newline]
  omega

theorem reads_list {items : List Value} (json : ∀ v ∈ items, v.IsJson)
    (reads : ∀ v ∈ items, Reads v) : Reads (.list items) := by
  intro depth fuel levels rest shallow enough follows
  obtain ⟨fuel, rfl⟩ := exists_fuel (printIndented_begins (.list json) depth) enough
  rw [Value.depth] at shallow
  obtain ⟨levels, rfl⟩ : ∃ n, levels = n + 1 := ⟨levels - 1, by omega⟩
  have shallow := Value.depthOfItems_le_iff.mp (Nat.le_of_succ_le_succ shallow)
  rw [Value.sorted, Value.sortedItems_eq]
  cases items with
  | nil => rfl
  | cons v items =>
    have parts : ∀ w ∈ v :: items, Readable levels w :=
      fun w member => ⟨json w member, reads w member, shallow w member⟩
    have begins := printIndented_begins (parts v List.mem_cons_self).json (depth + 1)
    have longer := length_printed_parts '[' ']' (depth + 1) depth (printIndented (depth + 1) v)
      (items.map (printIndented (depth + 1)))
    rw [printIndented, indentedItems_eq, List.map_cons] at enough ⊢
    rw [printed_parts]
    exact readValue_list (skipSpace_begins begins _) (begins.append _)
      (readItems_printed parts (by omega) rest)

/-! ## Dictionaries -/

/-- The line of an entry. -/
def entryText (depth : Nat) (p : String × Value) : List Char :=
  printText p.1 ++ ':' :: ' ' :: printIndented depth p.2

theorem indentedEntries_eq (depth : Nat) (entries : Entries) :
    indentedEntries depth entries =
      (sortByName entries).map fun p => (p.1, entryText depth p) := by
  induction entries with
  | nil => rfl
  | cons p rest ih =>
    rw [indentedEntries, ih]
    exact insertEntry_map (entryText depth) p _

theorem entryText_begins (depth : Nat) (p : String × Value) : Begins (entryText depth p) :=
  (printText_begins p.1).append _

/-- A sorted entry, as it is read. -/
def sortedEntry (p : String × Value) : String × Value := (p.1, p.2.sorted)

theorem sortedEntry_eq (p : String × Value) :
    sortedEntry p = (String.ofList p.1.toList, p.2.sorted) := by
  rw [String.ofList_toList]
  rfl

theorem entryText_append (depth : Nat) (p : String × Value) (rest : List Char) :
    entryText depth p ++ rest =
      '"' :: (p.1.toList.flatMap printChar ++ '"' ::
        (':' :: ' ' :: (printIndented depth p.2 ++ rest))) := by
  rw [entryText, List.append_assoc, printText_append]
  rfl

/-- The value of an entry is read behind its name, the colon and a blank. -/
theorem Readable.readValue_entry {p : String × Value} {levels : Nat} (h : Readable levels p.2)
    {depth fuel : Nat} (enough : (entryText depth p).length ≤ fuel) {rest : List Char}
    (follows : Follows rest) :
    readValue fuel levels (skipSpace (' ' :: (printIndented depth p.2 ++ rest))) =
      .ok (p.2.sorted, rest) := by
  have shorter : (printIndented depth p.2).length ≤ (entryText depth p).length := by
    simp only [entryText, List.length_append, List.length_cons]
    omega
  have space : skipSpace (' ' :: (printIndented depth p.2 ++ rest)) =
      printIndented depth p.2 ++ rest :=
    ((printIndented_begins h.json depth).append rest).skipSpace_eq
  rw [space]
  exact h.reads depth fuel levels rest h.shallow (shorter.trans enough) follows

theorem readEntries_printed {levels : Nat} {p : String × Value} {entries : Entries}
    (h : ∀ q ∈ p :: entries, Readable levels q.2) {depth outer fuel : Nat}
    (enough : (entryText depth p).length +
      (linesAfter depth (entries.map (entryText depth))).length < fuel) (rest : List Char) :
    readEntries fuel levels (entryText depth p ++
      (linesAfter depth (entries.map (entryText depth)) ++ (newline outer ++ '\x7d' :: rest))) =
      .ok ((p :: entries).map sortedEntry, rest) := by
  induction entries generalizing p fuel with
  | nil =>
    obtain ⟨fuel, rfl⟩ : ∃ n, fuel = n + 1 := ⟨fuel - 1, by omega⟩
    have enoughHere : (entryText depth p).length ≤ fuel := by omega
    have value := (h p List.mem_cons_self).readValue_entry enoughHere
      (follows_linesAfter depth outer [] ('\x7d' :: rest))
    rw [entryText_append, List.map_cons, sortedEntry_eq]
    exact readEntries_last (readChars_printed _ _ _) rfl (skipSpace_cons rfl _) value
      (skipSpace_closed outer rfl rest)
  | cons q entries ih =>
    obtain ⟨first, others⟩ := List.forall_mem_cons.mp h
    have longer := length_linesAfter_cons depth (entryText depth q) (entries.map (entryText depth))
    rw [List.map_cons] at enough ⊢
    obtain ⟨fuel, rfl⟩ : ∃ n, fuel = n + 1 := ⟨fuel - 1, by omega⟩
    have enoughHere : (entryText depth p).length ≤ fuel := by omega
    have value := first.readValue_entry enoughHere
      (follows_linesAfter depth outer (entryText depth q :: entries.map (entryText depth))
        ('\x7d' :: rest))
    have enoughLater : (entryText depth q).length +
        (linesAfter depth (entries.map (entryText depth))).length < fuel := by omega
    have more := ih others enoughLater
    rw [linesAfter_cons, List.cons_append, List.append_assoc, List.append_assoc] at value ⊢
    rw [entryText_append, List.map_cons, sortedEntry_eq]
    refine readEntries_more (readChars_printed _ _ _) rfl (skipSpace_cons rfl _) value
      (skipSpace_cons rfl _) ?_
    rw [skipSpace_begins (entryText_begins depth q)]
    exact more

/-- A dictionary is read from its entries in the order in which they are printed. -/
theorem readValue_entries {levels : Nat} {p : String × Value} {entries : Entries}
    (h : ∀ q ∈ p :: entries, Readable levels q.2) {depth outer fuel : Nat} {rest : List Char}
    (enough : ('\x7b' :: printLines depth ((p :: entries).map (entryText depth)) ++
      newline outer ++ ['\x7d']).length ≤ fuel + 1) :
    readValue (fuel + 1) (levels + 1)
      (('\x7b' :: printLines depth ((p :: entries).map (entryText depth)) ++
        newline outer ++ ['\x7d']) ++ rest) =
      .ok (.dict (Entries.ofPairs ((p :: entries).map sortedEntry)), rest) := by
  have longer := length_printed_parts '\x7b' '\x7d' depth outer (entryText depth p)
    (entries.map (entryText depth))
  have begins := entryText_begins depth p
  rw [List.map_cons] at enough
  rw [List.map_cons, printed_parts]
  exact readValue_dict (skipSpace_begins begins _) (begins.append _)
    (readEntries_printed h (by omega) rest)

/-- The names are distinct, so that each entry read is kept. -/
theorem ofPairs_sortedEntry {entries : Entries} (distinct : (Entries.keys entries).Nodup) :
    Entries.ofPairs ((sortByName entries).map sortedEntry) = Value.sortedEntries entries := by
  have distinct := (Value.keys_sortedEntries entries).nodup_iff.mpr distinct
  rw [Value.sortedEntries_eq] at distinct ⊢
  exact Entries.ofPairs_eq_self distinct

theorem reads_dict {entries : Entries} (distinct : (Entries.keys entries).Nodup)
    (json : ∀ p ∈ entries, p.2.IsJson) (reads : ∀ p ∈ entries, Reads p.2) :
    Reads (.dict entries) := by
  intro depth fuel levels rest shallow enough follows
  obtain ⟨fuel, rfl⟩ := exists_fuel (printIndented_begins (.dict distinct json) depth) enough
  rw [Value.depth] at shallow
  obtain ⟨levels, rfl⟩ : ∃ n, levels = n + 1 := ⟨levels - 1, by omega⟩
  have shallow := Value.depthOfEntries_le_iff.mp (Nat.le_of_succ_le_succ shallow)
  have parts : ∀ q ∈ sortByName entries, Readable levels q.2 := by
    intro q member
    have member := (sortByName_perm entries).mem_iff.mp member
    exact ⟨json q member, reads q member, shallow q member⟩
  rw [Value.sorted, ← ofPairs_sortedEntry distinct]
  cases entries with
  | nil => rfl
  | cons first others =>
    have text (l : Entries) : (l.map fun p => (p.1, entryText (depth + 1) p)).map (·.2) =
        l.map (entryText (depth + 1)) := List.map_map
    have filled := (sortByName_perm (first :: others)).length_eq
    rw [printIndented, indentedEntries_eq, text] at enough ⊢
    cases order : sortByName (first :: others) with
    | nil => rw [order] at filled; cases filled
    | cons p entries =>
      rw [order] at parts enough
      exact readValue_entries parts enough

/-! ## All values -/

/-- **Every value that a file can hold is read back.** -/
theorem reads {v : Value} (h : v.IsJson) : Reads v := by
  induction h with
  | null => exact reads_atom .null (fun _ => rfl) rfl fun _ _ _ _ => readValue_null _ _ _
  | bool b => exact reads_atom (.bool b) (fun _ => rfl) rfl fun _ _ _ _ => readValue_bool b _ _ _
  | int short =>
    exact reads_atom (.int short) (fun _ => rfl) rfl fun _ _ _ => readValue_int short _ _
  | float double =>
    exact reads_atom (.float double) (fun _ => rfl) rfl fun _ _ _ => readValue_float double _ _
  | text s => exact reads_atom (.text s) (fun _ => rfl) rfl fun _ _ _ _ => readValue_text s _ _ _
  | list json ih => exact reads_list json ih
  | dict distinct json ih => exact reads_dict distinct json ih

end LiveLint.Json
