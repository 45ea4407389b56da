import LiveLint.Mark.Reactions
import Mathlib.Data.List.Induction

/-! # Who is told that a handle is revoked

A handle lists those who listen to it, each as often as it listens, and a removal takes the first
of several away. Here registrations are told apart by the steps that made them, and each is
followed through the steps that come after. Those that stand when the handle is revoked are told
then; whoever is added later is told at once. Nobody is told otherwise. -/

namespace LiveLint

/-- Who begins to listen by a step. -/
def HandleStep.added? : HandleStep → Option String
  | .add name => some name
  | _ => none

namespace Handle

/-- Those who are called leave the handle alone. -/
def Idle (reactions : HandleReactions) : Prop := ∀ name, reactionOf reactions name = []

/-- A registration stands after steps, none of which revokes the handle: the one that the step of
that number made for that name. -/
inductive Stands : List HandleStep → Nat → String → Prop
  | made (steps : List HandleStep) (name : String) :
    Stands (steps ++ [.add name]) steps.length name
  | kept {steps : List HandleStep} {number : Nat} {name : String} {s : HandleStep} :
    Stands steps number name → s ≠ .remove name → Stands (steps ++ [s]) number name
  /-- A removal drops the earliest registration of its name, so that one with another before it
  stands. -/
  | spared {steps : List HandleStep} {number earlier : Nat} {name : String} :
    Stands steps number name → Stands steps earlier name → earlier < number →
      Stands (steps ++ [.remove name]) number name

/-- The registrations that stand after steps, in the order in which they were made. -/
structure IsRegister (steps : List HandleStep) (register : List (Nat × String)) : Prop where
  ordered : register.Pairwise fun r s => r.1 < s.1
  mem_iff : ∀ number name, (number, name) ∈ register ↔ Stands steps number name

/-! ## Registrations -/

section

variable {steps : List HandleStep} {number : Nat} {name : String} {s : HandleStep}

/-- A registration was made by the step of its number. -/
theorem Stands.getElem?_eq (h : Stands steps number name) : steps[number]? = some (.add name) := by
  induction h with
  | made steps name => exact List.getElem?_concat_length
  | kept _ _ ih | spared _ _ _ ih =>
    have inside := (List.getElem?_eq_some_iff.mp ih).1
    rw [List.getElem?_append_left inside, ih]

theorem not_stands_nil : ¬ Stands [] number name := by
  intro h
  have made := h.getElem?_eq
  simp at made

theorem stands_concat_iff : Stands (steps ++ [s]) number name ↔
    (s = .add name ∧ number = steps.length) ∨
      (Stands steps number name ∧ (s = .remove name → ∃ k < number, Stands steps k name)) := by
  constructor
  · generalize split : steps ++ [s] = history
    intro h
    cases h with
    | made before name =>
      obtain ⟨rfl, same⟩ := List.append_inj' split rfl
      exact .inl ⟨List.head_eq_of_cons_eq same, rfl⟩
    | kept h other =>
      obtain ⟨rfl, same⟩ := List.append_inj' split rfl
      obtain rfl := List.head_eq_of_cons_eq same
      exact .inr ⟨h, fun removed => absurd removed other⟩
    | spared h earlier before =>
      obtain ⟨rfl, -⟩ := List.append_inj' split rfl
      exact .inr ⟨h, fun _ => ⟨_, before, earlier⟩⟩
  · intro h
    rcases h with ⟨rfl, rfl⟩ | ⟨h, spared⟩
    · exact .made steps name
    · by_cases removed : s = .remove name
      · obtain ⟨k, before, earlier⟩ := spared removed
        exact removed ▸ .spared h earlier before
      · exact .kept h removed

end

/-! ## The register -/

/-- Of ordered registrations, all are left but the earliest of a name. -/
theorem mem_eraseP_iff {register : List (Nat × String)}
    (ordered : register.Pairwise fun r s => r.1 < s.1) (name : String) (r : Nat × String) :
    r ∈ register.eraseP (·.2 == name) ↔
      r ∈ register ∧ (r.2 = name → ∃ k < r.1, (k, name) ∈ register) := by
  induction register with
  | nil => simp
  | cons first rest ih =>
    obtain ⟨later, ordered⟩ := List.pairwise_cons.mp ordered
    by_cases same : first.2 = name
    · have earliest : (first.1, name) = first := by rw [← same]
      rw [List.eraseP_cons_of_pos (by simpa using same), List.mem_cons]
      constructor
      · intro left
        exact ⟨.inr left, fun _ => ⟨first.1, later r left, earliest ▸ List.mem_cons_self⟩⟩
      · intro ⟨listed, spared⟩
        refine listed.resolve_left fun dropped => ?_
        subst dropped
        obtain ⟨k, before, standing⟩ := spared same
        rcases List.mem_cons.mp standing with rfl | standing
        · exact Nat.lt_irrefl _ before
        · exact Nat.lt_asymm before (later _ standing)
    · have other : ∀ k, (k, name) ≠ first := by
        intro k e
        exact same (e ▸ rfl)
      have unnamed : r = first → r.2 ≠ name := fun e => e ▸ same
      rw [List.eraseP_cons_of_neg (by simpa using same), List.mem_cons, ih ordered, List.mem_cons]
      simp only [List.mem_cons, other, false_or, or_and_right]
      rw [and_iff_left_of_imp fun e named => absurd named (unnamed e)]

namespace IsRegister

variable {steps : List HandleStep} {register : List (Nat × String)}

theorem start : IsRegister [] [] := ⟨.nil, fun _ _ => iff_of_false List.not_mem_nil not_stands_nil⟩

theorem add (h : IsRegister steps register) (name : String) :
    IsRegister (steps ++ [.add name]) (register ++ [(steps.length, name)]) := by
  obtain ⟨ordered, mem_iff⟩ := h
  refine ⟨List.pairwise_append.mpr ⟨ordered, List.pairwise_singleton _ _, ?_⟩, ?_⟩
  · intro r hr s hs
    obtain rfl := List.mem_singleton.mp hs
    exact (List.getElem?_eq_some_iff.mp ((mem_iff r.1 r.2).mp hr).getElem?_eq).1
  · intro number other
    rw [List.mem_append, mem_iff, stands_concat_iff, or_comm]
    simp [eq_comm, and_comm]

theorem remove (h : IsRegister steps register) (name : String) :
    IsRegister (steps ++ [.remove name]) (register.eraseP (·.2 == name)) := by
  obtain ⟨ordered, mem_iff⟩ := h
  refine ⟨ordered.sublist List.eraseP_sublist, ?_⟩
  intro number other
  rw [mem_eraseP_iff ordered, mem_iff, stands_concat_iff]
  simp only [mem_iff]
  constructor
  · intro ⟨standing, spared⟩
    refine .inr ⟨standing, fun same => ?_⟩
    obtain rfl := HandleStep.remove.inj same
    exact spared rfl
  · intro h
    obtain ⟨standing, spared⟩ := h.resolve_left (by simp)
    exact ⟨standing, fun same => same ▸ spared (same ▸ rfl)⟩

end IsRegister

theorem erase_register (register : List (Nat × String)) (name : String) :
    (register.map (·.2)).erase name = (register.eraseP (·.2 == name)).map (·.2) := by
  rw [List.erase_eq_eraseP', List.eraseP_map]
  rfl

/-! ## Steps -/

/-- A listener is called after the handle was revoked. -/
def told (name : String) : ListenerCall := ⟨name, false⟩

section

variable {reactions : HandleReactions}

/-- Those who are called in turn leave the handle as it is. -/
theorem Idle.calls_eq (idle : Idle reactions) (depth : Nat) (called : List String)
    (h : Handle String) : (called.foldlM (fun h name => do
      Logged.publish ⟨name, h.alive⟩
      perform reactions (depth + 1) (reactionOf reactions name) h) h) =
        (⟨h, called.map (⟨·, h.alive⟩)⟩ : Logged ListenerCall (Handle String)) := by
  induction called with
  | nil => rfl
  | cons name called ih =>
    have left : perform reactions (depth + 1) [] h = pure h := rfl
    have value := congrArg Logged.value ih
    have events := congrArg Logged.events ih
    rw [List.foldlM_cons, idle name, left]
    exact Logged.ext value (congrArg (List.cons (ListenerCall.mk name h.alive)) events)

/-- A step does no more than that those are called whom it concerns. -/
theorem Idle.step_eq (idle : Idle reactions) (s : HandleStep) (h : Handle String) :
    h.step reactions s =
      let y := h.apply s
      ⟨y.1, y.2.map (⟨·, y.1.alive⟩)⟩ :=
  (bind_pure _).trans (idle.calls_eq reactions.length (h.apply s).2 (h.apply s).1)

theorem run_append (steps more : List HandleStep) (h : Handle String) :
    h.run reactions (steps ++ more) = h.run reactions steps >>= run reactions more :=
  List.foldlM_append

theorem run_one (s : HandleStep) (h : Handle String) :
    h.run reactions [s] = h.step reactions s := bind_pure _

/-! ## Before and after the handle is revoked -/

/-- Until a handle is revoked it lists the registrations that stand, and nobody is called. -/
theorem Idle.run_unrevoked (idle : Idle reactions) {steps : List HandleStep}
    (unrevoked : .revoke ∉ steps) : ∃ register, IsRegister steps register ∧
      ({} : Handle String).run reactions steps = ⟨⟨true, register.map (·.2)⟩, []⟩ := by
  induction steps using List.reverseRecOn with
  | nil => exact ⟨[], .start, rfl⟩
  | append_singleton steps s ih =>
    rw [List.mem_append, List.mem_singleton, not_or] at unrevoked
    obtain ⟨register, standing, before⟩ := ih unrevoked.1
    have last : ({} : Handle String).run reactions (steps ++ [s]) =
        step reactions s ⟨true, register.map (·.2)⟩ := by
      rw [run_append, before, ← run_one]
      rfl
    rw [last, idle.step_eq]
    cases s with
    | add name =>
      exact ⟨_, standing.add name, by simp [apply, Handle.add]⟩
    | remove name =>
      exact ⟨_, standing.remove name, by simp [apply, Handle.remove, erase_register]⟩
    | revoke => exact absurd rfl unrevoked.2

/-- Once a handle is revoked it stays so, and only those are called who are added. -/
theorem Idle.step_revoked (idle : Idle reactions) {h : Handle String} (revoked : h.alive = false)
    (s : HandleStep) : (h.step reactions s).value.alive = false ∧
      (h.step reactions s).events = s.added?.toList.map told := by
  rw [idle.step_eq]
  cases s with
  | add _ | revoke => simp [apply, Handle.add, Handle.revoke, revoked, HandleStep.added?, told]
  | remove name => exact ⟨revoked, rfl⟩

theorem Idle.run_revoked (idle : Idle reactions) {h : Handle String} (revoked : h.alive = false)
    (steps : List HandleStep) : (h.run reactions steps).value.alive = false ∧
      (h.run reactions steps).events = (steps.filterMap HandleStep.added?).map told := by
  induction steps generalizing h with
  | nil => exact ⟨revoked, rfl⟩
  | cons s steps ih =>
    obtain ⟨still, first⟩ := idle.step_revoked revoked s
    obtain ⟨last, rest⟩ := ih still
    refine ⟨last, ?_⟩
    have split : (h.run reactions (s :: steps)).events =
        (h.step reactions s).events ++ ((h.step reactions s).value.run reactions steps).events := rfl
    rw [split, first, rest, ← List.map_append]
    cases added : s.added? <;> simp [added]

end

/-- **Whoever listens to a handle is told exactly once.** This is so in every history of someone
who adds and removes listeners and revokes the handle, if those who are called leave it alone.
`before` are the steps until it is first revoked and `after` those that come later. Nobody is called
before. Those whose registrations stand then are called, in the order in which they were made and
each as often as it is registered. Later steps call nobody but who is added by them, once. -/
theorem listeners_told_once (reactions : HandleReactions) (idle : Idle reactions)
    (before after : List HandleStep) (first : .revoke ∉ before) :
    let h : Handle String := {}
    let y := h.run reactions before
    let z := y.value.step reactions .revoke
    y.events = [] ∧
    (∃ register, IsRegister before register ∧ z.events = register.map fun r => told r.2) ∧
    (∀ early s late, after = early ++ s :: late →
      ((z.value.run reactions early).value.step reactions s).events = s.added?.toList.map told) ∧
    (h.run reactions (before ++ .revoke :: after)).events =
      z.events ++ (after.filterMap HandleStep.added?).map told := by
  intro h y z
  obtain ⟨register, standing, does⟩ := idle.run_unrevoked first
  have begun : y = ⟨⟨true, register.map (·.2)⟩, []⟩ := does
  have calls : z = ⟨⟨false, []⟩, register.map fun r => told r.2⟩ := by
    have same : z = step reactions .revoke ⟨true, register.map (·.2)⟩ :=
      congrArg (fun y => step reactions .revoke y.value) begun
    rw [same, idle.step_eq]
    simp [apply, Handle.revoke, told]
  have revoked : z.value.alive = false := by rw [calls]
  refine ⟨by rw [begun], ⟨register, standing, by rw [calls]⟩, ?_, ?_⟩
  · intro early s late _
    exact (idle.step_revoked (idle.run_revoked revoked early).1 s).2
  · have split : (h.run reactions (before ++ .revoke :: after)).events =
        y.events ++ (z.events ++ (z.value.run reactions after).events) := by
      rw [run_append]
      rfl
    rw [split, begun, (idle.run_revoked revoked after).2]
    rfl

/-- The first of two registrations of a listener is dropped, so that it is told after another one.
Whoever is added later is told a second time. -/
theorem listeners_told_once_added_twice :
    let reactions : HandleReactions := [("a", [])]
    let before : List HandleStep := [.add "a", .add "b", .add "a", .remove "a", .remove "c"]
    let after : List HandleStep := [.add "b", .revoke, .remove "b"]
    let h : Handle String := {}
    let z := (h.run reactions before).value.step reactions .revoke
    Idle reactions ∧ .revoke ∉ before ∧ (h.run reactions before).events = [] ∧
      (∃ register, IsRegister before register ∧
        z.events = (register.map fun r => told r.2) ∧ register.map (·.2) = ["b", "a"]) ∧
      ((z.value.run reactions [.add "b"]).value.step reactions .revoke).events = [] ∧
      (h.run reactions (before ++ .revoke :: after)).events =
        [told "b", told "a", told "b"] := by
  intro reactions before after h z
  have idle : Idle reactions := by
    intro name
    by_cases same : "a" = name <;> simp [reactionOf, reactions, same]
  have first : .revoke ∉ before := by simp [before]
  obtain ⟨silent, ⟨register, standing, calls⟩, later, whole⟩ :=
    listeners_told_once reactions idle before after first
  have names : register.map (·.2) = ["b", "a"] := by
    have called : register.map (fun r => told r.2) = [told "b", told "a"] := calls.symm
    simpa [told, Function.comp_def] using congrArg (List.map ListenerCall.name) called
  exact ⟨idle, first, silent, ⟨register, standing, calls, names⟩,
    later [.add "b"] .revoke [.remove "b"] rfl, whole⟩

end Handle
end LiveLint
