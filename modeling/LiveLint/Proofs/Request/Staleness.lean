import LiveLint.Proofs.Request.Acceptance

/-! # Stale requests

The generations of requests under way are no newer than the current one. When a new generation
begins without a request, all requests under way are stale, and they stay so until the next
request is made. -/

namespace LiveLint.Requests
open Dispatcher

/-- In `r'` no more requests are under way than in `r`, and the generation is no older. -/
structure Fewer (r r' : Requests) : Prop where
  within : r'.openGenerations ⊆ r.openGenerations
  generation : r.generation ≤ r'.generation

/-- No request under way is newer than the current generation. -/
def Bounded (r : Requests) : Prop := ∀ g ∈ r.openGenerations, g ≤ r.generation

/-- No request under way is of the current generation. -/
def Stale (r : Requests) : Prop := ∀ g ∈ r.openGenerations, g < r.generation

/-- No request is in flight, and the pump does not run. -/
structure Idle (r : Requests) : Prop where
  pump : r.pump = none
  inFlight : r.inFlight = []

variable {r r' : Requests}

theorem Fewer.refl (r : Requests) : Fewer r r := ⟨List.Subset.refl _, Nat.le_refl _⟩

theorem Fewer.of_eq (waiting : r'.waiting = r.waiting) (queue : r'.queue = r.queue)
    (generation : r.generation ≤ r'.generation) : Fewer r r' := by
  refine ⟨?_, generation⟩
  rw [openGenerations, openGenerations, waiting, queue]
  exact List.Subset.refl _

theorem fewer_settle (r : Requests) : Fewer r r.settle := by
  unfold settle
  split <;> exact .of_eq rfl rfl (Nat.le_refl _)

theorem take?_eq_some {delivery : Delivery} (h : r.take? = some (delivery, r')) :
    ∃ q rest, r.queue = q :: rest ∧ delivery = r.deliveryOf q ∧ r' = r.afterTake q rest := by
  cases head : r.queue with
  | nil =>
    rw [take?_nil head] at h
    cases h
  | cons q rest =>
    rw [take?_cons head] at h
    obtain ⟨rfl, rfl⟩ := Prod.mk.inj (Option.some.inj h)
    exact ⟨q, rest, rfl, rfl, rfl⟩

theorem fewer_take {delivery : Delivery} (h : r.take? = some (delivery, r')) : Fewer r r' := by
  obtain ⟨q, rest, head, -, rfl⟩ := take?_eq_some h
  refine ⟨?_, Nat.le_refl _⟩
  simp only [openGenerations, afterTake, head, List.map_cons]
  exact ((List.sublist_cons_self _ _).append_left _).subset

theorem fewer_complete {number : Nat} {c : Completion} (h : r.complete? number c = some r') :
    Fewer r r' := by
  obtain ⟨w, found, rfl⟩ := Option.map_eq_some_iff.mp h
  exact ⟨(openGenerations_ended c found).subset, Nat.le_refl _⟩

theorem Bounded.fewer (h : Bounded r) (fewer : Fewer r r') : Bounded r' := fun g hg =>
  Nat.le_trans (h g (fewer.within hg)) fewer.generation

theorem Bounded.trigger (h : Bounded r) (t : Moment) : Bounded (r.trigger t) := by
  intro g hg
  have newest : (r.trigger t).generation = r.generation + 1 := rfl
  rcases List.mem_cons.mp ((openGenerations_trigger r t).mem_iff.mp hg) with rfl | hg
  · exact Nat.le_of_eq newest.symm
  · have := h g hg
    omega

/-- With a new generation, all requests under way are stale. -/
theorem Bounded.invalidate (h : Bounded r) : Stale r.invalidate := fun g hg =>
  Nat.lt_succ_of_le (h g hg)

theorem Bounded.shutdown (h : Bounded r) : Stale r.shutdown := h.invalidate

theorem Stale.bounded (h : Stale r) : Bounded r := fun g hg => Nat.le_of_lt (h g hg)

theorem Stale.fewer (h : Stale r) (fewer : Fewer r r') : Stale r' := fun g hg =>
  Nat.lt_of_lt_of_le (h g (fewer.within hg)) fewer.generation

/-- What is taken from the queue is stale. -/
theorem Stale.take {delivery : Delivery} (h : Stale r) (taken : r.take? = some (delivery, r')) :
    delivery = .stale := by
  obtain ⟨q, rest, head, rfl, -⟩ := take?_eq_some taken
  have old : q.generation < r.generation := h _ (by simp [openGenerations, head])
  exact if_neg (Nat.ne_of_lt old)

/-! ## Idle requests -/

theorem Idle.settle (h : Idle r) : Idle r.settle := by
  unfold Requests.settle
  split
  · exact ⟨rfl, h.inFlight⟩
  · exact h

theorem Idle.take {delivery : Delivery} (h : Idle r) (taken : r.take? = some (delivery, r')) :
    Idle r' := by
  obtain ⟨q, rest, -, -, rfl⟩ := take?_eq_some taken
  exact ⟨h.pump, by rw [afterTake, h.inFlight]; rfl⟩

theorem Idle.complete {number : Nat} {c : Completion} (h : Idle r)
    (completed : r.complete? number c = some r') : Idle r' := by
  obtain ⟨w, -, rfl⟩ := Option.map_eq_some_iff.mp completed
  exact ⟨h.pump, h.inFlight⟩

end LiveLint.Requests
