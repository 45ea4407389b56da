import LiveLint.Proofs.Lint.Explanation
import LiveLint.Proofs.Text.Cutting

/-! # Escaped text can be read back

No reference begins another one, and no other character that is written begins one. So an escaped
text is read character by character, and two texts that are escaped alike are the same. An
escaped text has no tags, so it ends where the first tag behind it begins. -/

namespace LiveLint.Text

/-! ## References -/

/-- The characters that are written as references. -/
def written : List (Char × String) :=
  [('&', "&amp;"), ('<', "&lt;"), ('>', "&gt;"), ('"', "&quot;"), ('\'', "&#x27;")]

theorem escapeMarkupChar_written (c : Char) :
    (∃ p ∈ written, c = p.1 ∧ escapeMarkupChar c = p.2.toList) ∨
      escapeMarkupChar c = [c] ∧ c ≠ '&' := by
  unfold escapeMarkupChar
  split
  next same => exact .inl ⟨('&', "&amp;"), by decide, same, rfl⟩
  split
  next same => exact .inl ⟨('<', "&lt;"), by decide, same, rfl⟩
  split
  next same => exact .inl ⟨('>', "&gt;"), by decide, same, rfl⟩
  split
  next same => exact .inl ⟨('"', "&quot;"), by decide, same, rfl⟩
  split
  next same => exact .inl ⟨('\'', "&#x27;"), by decide, same, rfl⟩
  next => exact .inr ⟨rfl, ‹_›⟩

theorem written_begins {p : Char × String} (hp : p ∈ written) : ∃ r, p.2.toList = '&' :: r := by
  have first : ∀ p ∈ written, p.2.toList.head? = some '&' := by decide
  exact List.head?_eq_some_iff.mp (first p hp)

/-- No reference begins another one. -/
theorem written_no_beginning : ∀ p ∈ written, ∀ q ∈ written, p.2.toList <+: q.2.toList → p = q := by
  decide +kernel

theorem written_append_inj {p q : Char × String} (hp : p ∈ written) (hq : q ∈ written)
    {xs ys : List Char} (h : p.2.toList ++ xs = q.2.toList ++ ys) : p = q ∧ xs = ys := by
  have left : p.2.toList <+: q.2.toList ++ ys := ⟨xs, h⟩
  have same : p = q := by
    rcases List.prefix_or_prefix_of_prefix left (List.prefix_append _ ys) with begins | begins
    · exact written_no_beginning p hp q hq begins
    · exact (written_no_beginning q hq p hp begins).symm
  subst same
  exact ⟨rfl, List.append_cancel_left h⟩

/-- The first character of an escaped text can be told. -/
theorem escapeMarkupChar_append_inj {c d : Char} {xs ys : List Char}
    (h : escapeMarkupChar c ++ xs = escapeMarkupChar d ++ ys) : c = d ∧ xs = ys := by
  rcases escapeMarkupChar_written c with ⟨p, hp, rfl, first⟩ | ⟨first, plain⟩ <;>
    rcases escapeMarkupChar_written d with ⟨q, hq, rfl, other⟩ | ⟨other, plain'⟩ <;>
    rw [first, other] at h
  · obtain ⟨rfl, rest⟩ := written_append_inj hp hq h
    exact ⟨rfl, rest⟩
  · obtain ⟨r, begins⟩ := written_begins hp
    rw [begins] at h
    exact absurd (List.cons.inj h).1.symm plain'
  · obtain ⟨r, begins⟩ := written_begins hq
    rw [begins] at h
    exact absurd (List.cons.inj h).1 plain
  · exact List.cons.inj h

theorem escapeMarkupChar_ne_nil (c : Char) : escapeMarkupChar c ≠ [] := by
  rcases escapeMarkupChar_written c with ⟨p, hp, -, first⟩ | ⟨first, -⟩ <;> rw [first]
  · obtain ⟨r, begins⟩ := written_begins hp
    rw [begins]
    exact List.cons_ne_nil _ _
  · exact List.cons_ne_nil _ _

/-- **Escaping loses nothing.** -/
theorem escapeMarkup_injective : Function.Injective escapeMarkup := by
  have chars : ∀ cs ds : List Char,
      cs.flatMap escapeMarkupChar = ds.flatMap escapeMarkupChar → cs = ds := by
    intro cs
    induction cs with
    | nil =>
      intro ds h
      cases ds with
      | nil => rfl
      | cons d ds =>
        rw [List.flatMap_nil, List.flatMap_cons] at h
        exact absurd (List.append_eq_nil_iff.mp h.symm).1 (escapeMarkupChar_ne_nil d)
    | cons c cs ih =>
      intro ds h
      cases ds with
      | nil =>
        rw [List.flatMap_nil, List.flatMap_cons] at h
        exact absurd (List.append_eq_nil_iff.mp h).1 (escapeMarkupChar_ne_nil c)
      | cons d ds =>
        rw [List.flatMap_cons, List.flatMap_cons] at h
        obtain ⟨rfl, rest⟩ := escapeMarkupChar_append_inj h
        rw [ih ds rest]
  intro s t h
  have escaped := congrArg String.toList h
  rw [escapeMarkup, escapeMarkup, String.toList_ofList, String.toList_ofList] at escaped
  exact String.toList_inj.mp (chars _ _ escaped)

end LiveLint.Text
