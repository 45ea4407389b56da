import Mathlib.Data.List.Basic

/-! # What has held since

What a machine with timers does next depends on what has happened and on what has not happened
since then. -/

namespace LiveLint

variable {α : Type} {begins keeps : List α → α → Prop} {history : List α} {s : α}

/-- Something began with a step of a history and was kept by every step since. Both depend on
the steps before. -/
def Since (begins keeps : List α → α → Prop) (history : List α) : Prop :=
  ∃ before first after, history = before ++ first :: after ∧ begins before first ∧
    ∀ between s rest, after = between ++ s :: rest → keeps (before ++ first :: between) s

theorem not_since_nil : ¬ Since begins keeps [] := by
  rintro ⟨before, first, after, split, -⟩
  simp at split

/-- It holds after a step if it began with that step, or held before and was kept. -/
theorem since_concat : Since begins keeps (history ++ [s]) ↔
    begins history s ∨ (Since begins keeps history ∧ keeps history s) := by
  constructor
  · rintro ⟨before, first, after, split, began, kept⟩
    rcases List.eq_nil_or_concat after with rfl | ⟨after, last, rfl⟩
    · obtain ⟨rfl, same⟩ := List.append_inj' split rfl
      obtain rfl : s = first := List.head_eq_of_cons_eq same
      exact .inl began
    · have split : history ++ [s] = (before ++ first :: after) ++ [last] := by simpa using split
      obtain ⟨rfl, same⟩ := List.append_inj' split rfl
      obtain rfl : s = last := List.head_eq_of_cons_eq same
      refine .inr ⟨⟨before, first, after, rfl, began, ?_⟩, ?_⟩
      · intro between s' rest e
        exact kept between s' (rest ++ [s]) (by simp [e])
      · exact kept after s [] (by simp)
  · rintro (began | ⟨⟨before, first, after, rfl, began, kept⟩, last⟩)
    · exact ⟨history, s, [], rfl, began, fun between s' rest e => by simp at e⟩
    · refine ⟨before, first, after ++ [s], by simp, began, ?_⟩
      intro between s' rest e
      rcases List.eq_nil_or_concat rest with rfl | ⟨rest, s'', rfl⟩
      · obtain ⟨rfl, same⟩ := List.append_inj' e rfl
        obtain rfl : s = s' := List.head_eq_of_cons_eq same
        exact last
      · have split : after ++ [s] = (between ++ s' :: rest) ++ [s''] := by simpa using e
        exact kept between s' rest (List.append_inj' split rfl).1

end LiveLint
