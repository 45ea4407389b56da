import LiveLint.Proofs.Settings.Paths
import LiveLint.Proofs.Value.Equality
import LiveLint.Settings.Store

/-! # Setting a value

Setting asks whether the value is there already, and to this question a key without a value answers
with null. So a null cannot be set under such a key: nothing changes, and the key keeps answering
with whatever default it is asked for. In all other cases what was set, or an equal value that was
there, is found afterwards. -/

namespace LiveLint

theorem Value.eq_null_of_null_same {v : Value} (h : Value.null.same v) : v = .null := by
  cases v with
  | null => rfl
  | bool _ | int _ | float _ | text _ | list _ | dict _ => cases h

namespace Settings.Store

variable {s : Store} {key : String} {value : Value}

/-- There is a value under the key. -/
def Holds (s : Store) (key : String) : Prop :=
  ∃ v, followPath (.dict s.data) (pathOf key) = some v

/-- A key with a value answers with it, whatever the default. -/
theorem Holds.get_eq (h : s.Holds key) (filled : key ≠ "") :
    ∃ v, ∀ fallback, s.get key fallback = v := by
  obtain ⟨v, found⟩ := h
  refine ⟨v, fun fallback => ?_⟩
  rw [get, getAt_eq _ filled, found, Option.getD_some]

theorem get_of_not_holds (h : ¬ s.Holds key) (filled : key ≠ "") (fallback : Value) :
    s.get key fallback = fallback := by
  have missing : followPath (.dict s.data) (pathOf key) = none :=
    Option.eq_none_iff_forall_ne_some.mpr fun v found => h ⟨v, found⟩
  rw [get, getAt_eq _ filled, missing, Option.getD_none]

/-! ## What setting does -/

theorem set_of_same (h : (s.get key .null).same value) : s.set key value = .ok (false, s) :=
  if_pos h

theorem set_of_not_same (h : ¬ (s.get key .null).same value) (filled : key ≠ "") :
    s.set key value =
      .ok (true, { s with data := putPath s.data value (pathOf key), dirty := true }) := by
  rw [set, if_neg h, setAt_eq _ filled]
  rfl

/-- A value that is found to be there is there, unless it is a null that is missing. -/
theorem get_same_of_same (h : (s.get key .null).same value) (filled : key ≠ "")
    (settable : value ≠ .null ∨ s.Holds key) (fallback : Value) :
    (s.get key fallback).same value := by
  by_cases held : s.Holds key
  · obtain ⟨v, found⟩ := held.get_eq filled
    rw [found] at h ⊢
    exact h
  · rw [get_of_not_holds held filled] at h
    exact absurd (Value.eq_null_of_null_same h) (settable.resolve_right held)

/-- **What is set can be got.** A value without NaN, or an equal one, is found under its key after
setting it, whatever the default. Setting changes nothing, and says so, only where that was so
before. The one exception is a null under a key without a value: it is not set, and nothing is found
there but the default. -/
theorem set_then_get (s : Store) {key : String} (filled : key ≠ "") {value : Value}
    (definite : value.IsDefinite) :
    ∃ changed s', s.set key value = .ok (changed, s') ∧
      (changed = true → s'.dirty = true) ∧ (changed = false → s' = s) ∧
      (value ≠ .null ∨ s.Holds key →
        (∀ fallback, (s'.get key fallback).same value) ∧
        (changed = false → ∀ fallback, (s.get key fallback).same value)) ∧
      (value = .null → ¬ s.Holds key →
        changed = false ∧ ∀ fallback, s.get key fallback = fallback) := by
  by_cases same : (s.get key .null).same value
  · refine ⟨false, s, set_of_same same, fun changed => ?_, fun _ => rfl, fun settable => ?_,
      fun _ missing => ⟨rfl, get_of_not_holds missing filled⟩⟩
    · cases changed
    · exact ⟨get_same_of_same same filled settable,
        fun _ => get_same_of_same same filled settable⟩
  · refine ⟨true, _, set_of_not_same same filled, fun _ => rfl, fun unchanged => ?_, fun _ => ?_,
      fun null missing => ?_⟩
    · cases unchanged
    · refine ⟨fun fallback => ?_, fun unchanged => by cases unchanged⟩
      rw [get, getAt_eq _ filled, followPath_putPath_self _ _ (pathOf_ne_nil key), Option.getD_some]
      exact definite.same_self
    · rw [get_of_not_holds missing filled, null] at same
      exact absurd rfl same

/-- The number one is there where the truth value is to be set, and it stays. -/
theorem set_then_get_equal_number :
    let s : Store := { path := default, data := [("a", .dict [("b", .int 1)])] }
    ("a.b" ≠ "" ∧ (Value.bool true).IsDefinite) ∧ s.set "a.b" (.bool true) = .ok (false, s) ∧
      ∀ fallback, (s.get "a.b" fallback).same (.bool true) := by
  intro s
  have filled : "a.b" ≠ "" := by decide
  have settable : Value.bool true ≠ .null ∨ s.Holds "a.b" := .inr ⟨.int 1, rfl⟩
  obtain ⟨changed, s', set, -, -, found, -⟩ := set_then_get s filled (.bool true)
  have unchanged : s.set "a.b" (.bool true) = .ok (false, s) := rfl
  obtain ⟨rfl, -⟩ := Prod.mk.inj (Except.ok.inj (set.symm.trans unchanged))
  exact ⟨⟨filled, .bool true⟩, unchanged, (found settable).2 rfl⟩

/-- A null that is set where there is no value is not found. -/
theorem null_not_set :
    let s : Store := { path := default }
    s.set "a" .null = .ok (false, s) ∧ ¬ (s.get "a" (.int 5)).same .null := by
  intro s
  have different : (s.get "a" (.int 5)).same .null = false := rfl
  exact ⟨rfl, different ▸ Bool.false_ne_true⟩

end Settings.Store
end LiveLint
