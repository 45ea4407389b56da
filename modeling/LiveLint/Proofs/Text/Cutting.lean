import LiveLint.Value
import Mathlib.Data.List.Infix

/-! # Joined texts can be cut again

Texts joined with a separator are found again by cutting at the separator, as long as it occurs in
none of them. Its first character must not come again in it: otherwise it could begin in a text
and end in the separator behind. A text that ends where a character comes for the first time can
be told from what follows. -/

namespace LiveLint.Text

/-- The parts of a text between the occurrences of a separator, found from the left. So many
characters of the last occurrence are still to come, and `part`, in reverse, has been read since. -/
def cutFrom (separator : List Char) (skip : Nat) (part : List Char) :
    List Char → List (List Char)
  | [] => [part.reverse]
  | c :: r => match skip with
    | k + 1 => cutFrom separator k part r
    | 0 =>
      if separator.isPrefixOf (c :: r) then
        part.reverse :: cutFrom separator (separator.length - 1) [] r
      else cutFrom separator 0 (c :: part) r

def cutAt (separator s : String) : List String :=
  (cutFrom separator.toList 0 [] s.toList).map String.ofList

/-! ## Texts in front of a character -/

/-- A text is empty or begins with the character. -/
def BeginsWith (d : Char) (cs : List Char) : Prop := ∀ c, cs.head? = some c → c = d

instance (d : Char) (cs : List Char) : Decidable (BeginsWith d cs) :=
  decidable_of_iff (cs.head? = none ∨ cs.head? = some d) <| by
    cases cs with
    | nil => exact iff_of_true (.inl rfl) fun _ h => nomatch h
    | cons c r => simp [BeginsWith, eq_comm]

theorem beginsWith_cons (d : Char) (cs : List Char) : BeginsWith d (d :: cs) :=
  fun _ h => (Option.some.inj h).symm

theorem BeginsWith.append {d : Char} {cs ds : List Char} (h : BeginsWith d cs)
    (h' : BeginsWith d ds) : BeginsWith d (cs ++ ds) := by
  cases cs with
  | nil => exact h'
  | cons c r => exact fun e first => h e first

theorem takeWhile_append_beginsWith {d : Char} {xs us : List Char} (hx : d ∉ xs)
    (hu : BeginsWith d us) : (xs ++ us).takeWhile (· != d) = xs := by
  have other : ∀ c ∈ xs, (c != d) = true := fun c hc => bne_iff_ne.mpr fun e => hx (e ▸ hc)
  have stop : us.takeWhile (· != d) = [] := by
    cases us with
    | nil => rfl
    | cons c r =>
      obtain rfl := hu c rfl
      simp
  rw [List.takeWhile_append_of_pos other, stop, List.append_nil]

/-- Two texts are the same if they are so with what follows, where neither has the character with
which that begins. -/
theorem append_inj_of_beginsWith {d : Char} {xs ys us vs : List Char} (hx : d ∉ xs) (hy : d ∉ ys)
    (hu : BeginsWith d us) (hv : BeginsWith d vs) (h : xs ++ us = ys ++ vs) :
    xs = ys ∧ us = vs := by
  have same : xs = ys := by
    rw [← takeWhile_append_beginsWith hx hu, h, takeWhile_append_beginsWith hy hv]
  subst same
  exact ⟨rfl, List.append_cancel_left h⟩

/-! ## Where a separator occurs -/

/-- A separator in two texts is in one of them, unless it begins in the one and ends in the other:
then the first ends with a character of the separator that is not its last, and the second
begins with one that is not its first. -/
theorem not_infix_append {separator s t : List Char} (hs : ¬ separator <:+: s)
    (ht : ¬ separator <:+: t)
    (apart : (∀ c, s.getLast? = some c → c ∉ separator.dropLast) ∨
      ∀ c, t.head? = some c → c ∉ separator.tail) : ¬ separator <:+: s ++ t := by
  rintro ⟨before, after, split⟩
  rw [List.append_assoc] at split
  rcases List.append_eq_append_iff.mp split with ⟨gap, rfl, e⟩ | ⟨gap, rfl, rfl⟩
  · -- it begins in the first text
    rcases List.append_eq_append_iff.mp e with ⟨more, rfl, -⟩ | ⟨more, rfl, rfl⟩
    · exact hs ⟨before, more, by rw [List.append_assoc]⟩
    · cases gap with
      | nil => exact ht ⟨[], after, rfl⟩
      | cons c gap =>
        cases more with
        | nil =>
          rw [List.append_nil] at hs
          exact hs ⟨before, [], List.append_nil _⟩
        | cons d more =>
          rcases apart with last | first
          · have ends : (before ++ c :: gap).getLast? = some ((c :: gap).getLast (by simp)) := by
              rw [List.getLast?_append, List.getLast?_eq_some_getLast (by simp), Option.some_or]
            refine last _ ends ?_
            rw [List.dropLast_append_cons]
            exact List.mem_append_left _ (List.getLast_mem _)
          · exact first d rfl (List.mem_append_right gap List.mem_cons_self)
  · exact ht ⟨gap, after, List.append_assoc _ _ _⟩

/-- A separator occurs in no text that lacks one of its characters. -/
theorem not_infix_of_not_mem {separator s : List Char} {c : Char} (hc : c ∈ separator)
    (h : c ∉ s) : ¬ separator <:+: s := fun inside => h (inside.subset hc)

/-! ## Cutting -/

theorem cutFrom_skip (separator cs : List Char) {skipped : List Char} {skip : Nat}
    (h : skipped.length = skip) :
    cutFrom separator skip [] (skipped ++ cs) = cutFrom separator 0 [] cs := by
  subst h
  induction skipped with
  | nil => rfl
  | cons c rest ih => exact ih

section

variable {first : Char} {tail : List Char}

/-- No separator begins in a text without it, even if a separator follows. -/
theorem not_prefix_append (unbordered : first ∉ tail) {part : List Char} (filled : part ≠ [])
    (free : ¬ (first :: tail) <:+: part) (rest : List Char) :
    ¬ (first :: tail) <+: part ++ (first :: tail ++ rest) := by
  intro here
  by_cases short : (first :: tail).length ≤ part.length
  · exact free (List.prefix_of_prefix_length_le here (List.prefix_append _ _) short).isInfix
  · have ahead : part <+: first :: tail :=
      List.prefix_of_prefix_length_le (List.prefix_append _ _) here (by omega)
    obtain ⟨after, whole⟩ := ahead
    rw [← whole, List.prefix_append_right_inj, whole] at here
    cases part with
    | nil => exact filled rfl
    | cons c part =>
      cases after with
      | nil =>
        rw [List.append_nil] at whole
        exact free (whole ▸ List.infix_rfl)
      | cons d after =>
        obtain ⟨rfl, rfl⟩ := List.cons.inj whole
        obtain ⟨rfl, -⟩ := List.cons_prefix_cons.mp here
        exact unbordered (List.mem_append_right part List.mem_cons_self)

theorem cutFrom_part (unbordered : first ∉ tail) {part : List Char}
    (free : ¬ (first :: tail) <:+: part) (read rest : List Char) :
    cutFrom (first :: tail) 0 read (part ++ (first :: tail ++ rest)) =
      (read.reverse ++ part) :: cutFrom (first :: tail) 0 [] rest := by
  induction part generalizing read with
  | nil =>
    have here : (first :: tail).isPrefixOf (first :: (tail ++ rest)) = true := by simp
    have skipped : cutFrom (first :: tail) ((first :: tail).length - 1) [] (tail ++ rest) =
        cutFrom (first :: tail) 0 [] rest := cutFrom_skip _ rest rfl
    show cutFrom (first :: tail) 0 read (first :: (tail ++ rest)) = _
    rw [cutFrom, if_pos here, skipped, List.append_nil]
  | cons c part ih =>
    have later : ¬ (first :: tail) <:+: part := fun inside =>
      free (inside.trans (List.suffix_cons c part).isInfix)
    have elsewhere := not_prefix_append unbordered (List.cons_ne_nil c part) free rest
    rw [← List.isPrefixOf_iff_prefix, List.cons_append] at elsewhere
    rw [List.cons_append, cutFrom, if_neg elsewhere, ih later, List.reverse_cons,
      List.append_assoc, List.singleton_append]

theorem cutFrom_last {part : List Char} (free : ¬ (first :: tail) <:+: part) (read : List Char) :
    cutFrom (first :: tail) 0 read part = [read.reverse ++ part] := by
  induction part generalizing read with
  | nil => rw [cutFrom, List.append_nil]
  | cons c part ih =>
    have later : ¬ (first :: tail) <:+: part := fun inside =>
      free (inside.trans (List.suffix_cons c part).isInfix)
    have elsewhere : ¬ (first :: tail).isPrefixOf (c :: part) = true := fun here =>
      free (List.isPrefixOf_iff_prefix.mp here).isInfix
    rw [cutFrom, if_neg elsewhere, ih later, List.reverse_cons, List.append_assoc,
      List.singleton_append]

end

/-- **Texts are found again in their join.** -/
theorem cutAt_joinTexts {separator : String} {first : Char} {tail : List Char}
    (chars : separator.toList = first :: tail) (unbordered : first ∉ tail) {parts : List String}
    (filled : parts ≠ []) (free : ∀ p ∈ parts, ¬ separator.toList <:+: p.toList) :
    cutAt separator (Value.joinTexts separator parts) = parts := by
  rw [chars] at free
  rw [cutAt, chars]
  induction parts with
  | nil => exact absurd rfl filled
  | cons p rest ih =>
    obtain ⟨here, later⟩ := List.forall_mem_cons.mp free
    cases rest with
    | nil =>
      rw [Value.joinTexts, cutFrom_last here]
      simp
    | cons q rest =>
      have joined : (Value.joinTexts separator (p :: q :: rest)).toList =
          p.toList ++ (first :: tail ++ (Value.joinTexts separator (q :: rest)).toList) := by
        rw [Value.joinTexts, String.toList_append, String.toList_append, chars, List.append_assoc]
        simp
      rw [joined, cutFrom_part unbordered here, List.map_cons, ih (List.cons_ne_nil q rest) later]
      simp

end LiveLint.Text
