import LiveLint.Proofs.Request.Acceptance
import Mathlib.Data.Set.Card

/-! # The requests in flight

A request is outstanding from the act that makes it until its result is taken, unless
everything is shut down before. The requests in flight are exactly the outstanding ones. The
pump runs as long as there are any, and once a drain has come to its end it runs only then. So
whatever an outstanding request has come to lies in the queue, once, and will be taken. -/

namespace LiveLint

namespace Requests

/-- The numbers of the requests whose results were not taken. -/
def openNumbers (r : Requests) : List Nat := r.underWay.map (·.1)

theorem mem_openNumbers {r : Requests} {n : Nat} :
    n ∈ r.openNumbers ↔ (∃ w ∈ r.waiting, w.1 = n) ∨ ∃ q ∈ r.queue, q.number = n := by
  simp [openNumbers, underWay]

end Requests

namespace Dispatcher
open Requests

/-! ## What is outstanding -/

/-- An act makes the request of that number. -/
def Makes (d : Dispatcher) (a : Act) (number : Nat) : Prop :=
  d.requests.made = number ∧ (d.act a).value.requests.made = number + 1

/-- An act is the end of the request of that number, which has waited for it. -/
def Completes (d : Dispatcher) (a : Act) (number : Nat) (c : Completion) : Prop :=
  a = .complete number c ∧ ∃ generation, (number, generation) ∈ d.requests.waiting

/-- An act takes the result of the request of that number. -/
def Takes (d : Dispatcher) (a : Act) (number : Nat) : Prop :=
  a = .take ∧ ∃ q rest, d.requests.queue = q :: rest ∧ q.number = number

/-- An act shuts everything down, from outside or through the listener. -/
def ShutsDown (d : Dispatcher) (a : Act) : Prop :=
  a = .shutdown ∨ a = .react ∧ ∃ rest, d.reactions = .shutdown :: rest

/-- In the history after `d`, the request of that number was made, and since then neither was
its result taken nor everything shut down. -/
def Outstanding (d : Dispatcher) (history : List Act) (number : Nat) : Prop :=
  ∃ before a after, history = before ++ a :: after ∧ (d.perform before).value.Makes a number ∧
    ∀ between b rest, after = between ++ b :: rest →
      let e := (d.perform (before ++ a :: between)).value
      ¬ e.Takes b number ∧ ¬ e.ShutsDown b

theorem not_outstanding_nil {d : Dispatcher} {number : Nat} : ¬ d.Outstanding [] number := by
  rintro ⟨before, a, after, h, -⟩
  simp at h

theorem outstanding_concat {d : Dispatcher} {history : List Act} {b : Act} {number : Nat} :
    d.Outstanding (history ++ [b]) number ↔
      (d.perform history).value.Makes b number ∨
      d.Outstanding history number ∧ ¬ (d.perform history).value.Takes b number ∧
        ¬ (d.perform history).value.ShutsDown b := by
  constructor
  · rintro ⟨before, a, after, h, makes, kept⟩
    rcases List.eq_nil_or_concat after with rfl | ⟨after, last, rfl⟩
    · obtain ⟨rfl, h⟩ := List.append_inj' h rfl
      obtain rfl : b = a := by simpa using h
      exact .inl makes
    · have ends : history ++ [b] = (before ++ a :: after) ++ [last] := by simpa using h
      obtain ⟨rfl, h⟩ := List.append_inj' ends rfl
      obtain rfl : b = last := by simpa using h
      refine .inr ⟨⟨before, a, after, rfl, makes, fun between c rest e => ?_⟩, ?_⟩
      · exact kept between c (rest ++ [b]) (by simp [e])
      · exact kept after b [] (by simp)
  · rintro (makes | ⟨⟨before, a, after, rfl, makes, kept⟩, last⟩)
    · exact ⟨history, b, [], rfl, makes, fun between c rest e => by simp at e⟩
    · refine ⟨before, a, after ++ [b], by simp, makes, fun between c rest e => ?_⟩
      rcases List.eq_nil_or_concat rest with rfl | ⟨rest, c', rfl⟩
      · obtain ⟨rfl, h⟩ := List.append_inj' e rfl
        obtain rfl : b = c := by simpa using h
        exact last
      · have ends : after ++ [b] = (between ++ c :: rest) ++ [c'] := by simpa using e
        exact kept between c rest (List.append_inj' ends rfl).1

theorem ended_concat {d : Dispatcher} {history : List Act} {a : Act} {number : Nat}
    {c : Completion} :
    d.Ended (history ++ [a]) number c ↔
      d.Ended history number c ∨ (d.perform history).value.Completes a number c := by
  constructor
  · rintro (atOnce | ⟨before, after, h, waited⟩)
    · exact .inl (.inl atOnce)
    · rcases List.eq_nil_or_concat after with rfl | ⟨after, last, rfl⟩
      · obtain ⟨rfl, h⟩ := List.append_inj' h rfl
        obtain rfl : a = .complete number c := by simpa using h
        exact .inr ⟨rfl, waited⟩
      · have ends : history ++ [a] = (before ++ .complete number c :: after) ++ [last] := by
          simpa using h
        exact .inl (.inr ⟨before, after, (List.append_inj' ends rfl).1, waited⟩)
  · rintro (ended | ⟨rfl, waited⟩)
    · exact ended.append [a]
    · exact .inr ⟨history, [], rfl, waited⟩

/-! ## What an act does -/

/-- An act that ends no request, takes no result, shuts nothing down and ends no drain. -/
structure Plain (d : Dispatcher) (a : Act) : Prop where
  unended : ∀ n c, ¬ d.Completes a n c
  untaken : ∀ n, ¬ d.Takes a n
  open' : ¬ d.ShutsDown a
  unsettled : a ≠ .settle

/-- What an act makes of the requests. -/
inductive Effect (d : Dispatcher) : Act → Requests → Prop where
  | kept {a : Act} (generation : Nat) (plain : d.Plain a) :
    Effect d a { d.requests with generation }
  | made {a : Act} (t : Moment) (plain : d.Plain a) : Effect d a (d.requests.trigger t)
  | ended {number : Nat} {c : Completion} {w : Nat × Nat}
    (found : d.requests.waiting.find? (·.1 == number) = some w) :
    Effect d (.complete number c) (afterEnd d.requests number w.2 c)
  | taken {q : Queued} {rest : List Queued} (head : d.requests.queue = q :: rest) :
    Effect d .take (afterTake d.requests q rest)
  | shut {a : Act} (down : d.ShutsDown a) : Effect d a d.requests.shutdown
  | settled : Effect d .settle d.requests.settle
  | rung {a : Alarm} (t : Moment) : Effect d (.ring a) (d.requests.rearm t)

/-- Asking, giving up what was asked and waiting are plain acts. -/
theorem plain_of_asking {d : Dispatcher} {a : Act}
    (h : (∃ document, a = .trigger document) ∨ a = .invalidate ∨ ∃ limit, a = .wait limit) :
    d.Plain a := by
  rcases h with ⟨document, rfl⟩ | rfl | ⟨limit, rfl⟩ <;>
    exact ⟨by simp [Completes], by simp [Takes], by simp [ShutsDown], by simp⟩

/-- The listener shuts down only when that is what it has in store. -/
theorem plain_react {d : Dispatcher} (h : ∀ rest, d.reactions ≠ .shutdown :: rest) :
    d.Plain .react where
  unended _ _ h := by cases h.1
  untaken _ h := by cases h.1
  open' h' := by
    rcases h' with e | ⟨-, rest, e⟩
    · cases e
    · exact h rest e
  unsettled h := by cases h

theorem act_effect (a : Act) (d : Dispatcher) : d.Effect a (d.act a).value.requests := by
  cases a with
  | trigger document => exact .made _ (plain_of_asking (.inl ⟨_, rfl⟩))
  | complete number c =>
    simp only [act, Requests.complete?]
    cases found : d.requests.waiting.find? (·.1 == number) with
    | none =>
      have unended : ∀ n c', ¬ d.Completes (.complete number c) n c' := by
        rintro n c' ⟨e, generation, waits⟩
        obtain ⟨rfl, rfl⟩ := Act.complete.inj e
        simpa using List.find?_eq_none.mp found _ waits
      exact .kept _ ⟨unended, by simp [Takes], by simp [ShutsDown], by simp⟩
    | some w => exact .ended found
  | invalidate => exact .kept _ (plain_of_asking (.inr (.inl rfl)))
  | shutdown => exact .shut (.inl rfl)
  | take =>
    cases head : d.requests.queue with
    | nil =>
      have untaken : ∀ n, ¬ d.Takes .take n := by
        rintro n ⟨-, q, rest, h, -⟩
        rw [head] at h
        cases h
      simp only [act, take?_nil head]
      exact .kept _ ⟨by simp [Completes], untaken, by simp [ShutsDown], by simp⟩
    | cons q rest =>
      simp only [act, take?_cons head]
      exact .taken head
  | react =>
    cases reactions : d.reactions with
    | nil =>
      simp only [act, reactions]
      exact .kept _ (plain_react (by simp [reactions]))
    | cons reaction rest =>
      simp only [act, reactions]
      cases reaction with
      | trigger document => exact .made _ (plain_react (by simp [reactions]))
      | invalidate => exact .kept _ (plain_react (by simp [reactions]))
      | shutdown => exact .shut (.inr ⟨rfl, rest, reactions⟩)
  | settle => exact .settled
  | ring a => exact .rung _
  | wait limit => exact .kept _ (plain_of_asking (.inr (.inr ⟨_, rfl⟩)))

/-- After an act, what is in flight is what it made, and what was in flight before unless the
act has taken its result or has shut everything down. -/
theorem mem_inFlight_act {d : Dispatcher} {a : Act} {n : Nat} :
    n ∈ (d.act a).value.requests.inFlight ↔
      d.Makes a n ∨ n ∈ d.requests.inFlight ∧ ¬ d.Takes a n ∧ ¬ d.ShutsDown a := by
  have effect := act_effect a d
  unfold Makes
  generalize (d.act a).value.requests = r' at effect
  have unmade : ¬ (d.requests.made = n ∧ d.requests.made = n + 1) := by omega
  cases effect with
  | kept generation plain => simp [unmade, plain.untaken n, plain.open']
  | made t plain =>
    have one : d.requests.made = n ∧ (d.requests.trigger t).made = n + 1 ↔ n = d.requests.made := by
      simp only [Requests.trigger]
      omega
    rw [one]
    simp [Requests.trigger, plain.untaken n, plain.open', or_comm]
  | ended found => simp [afterEnd, unmade, Takes, ShutsDown]
  | @taken q rest head =>
    have takes : d.Takes .take n ↔ n = q.number := by simp [Takes, head, eq_comm]
    simp [afterTake, unmade, takes, ShutsDown]
  | shut down =>
    have gone : n ∉ d.requests.shutdown.inFlight := List.not_mem_nil
    have unmade' : ¬ (d.requests.made = n ∧ d.requests.shutdown.made = n + 1) := unmade
    simp [gone, unmade', down]
  | settled =>
    have same : d.requests.settle.inFlight = d.requests.inFlight ∧
        d.requests.settle.made = d.requests.made := by
      unfold Requests.settle
      split <;> exact ⟨rfl, rfl⟩
    simp [same, unmade, Takes, ShutsDown]
  | rung t => simp [Requests.rearm, unmade, Takes, ShutsDown]

/-- The requests in flight are the outstanding ones. -/
theorem mem_inFlight_perform {d : Dispatcher} (start : d.requests.inFlight = [])
    (history : List Act) (n : Nat) :
    n ∈ (d.perform history).value.requests.inFlight ↔ d.Outstanding history n := by
  induction history using List.reverseRecOn with
  | nil => simp [start, not_outstanding_nil]
  | append_singleton history a ih =>
    rw [perform_concat, mem_inFlight_act, outstanding_concat, ih]

/-! ## The pump -/

/-- Whether a drain is under way after acts, if one was before them: it begins when the pump
rings or a result is taken, and ends when the queue is found empty. -/
def draining (acts : List Act) (before : Bool) : Bool :=
  acts.foldl (fun busy a => match a with
    | .take | .ring _ => true
    | .settle => false
    | _ => busy) before

theorem draining_append (acts more : List Act) (before : Bool) :
    draining (acts ++ more) before = draining more (draining acts before) := List.foldl_append

theorem not_draining_before {a : Act} {busy : Bool} (unsettled : a ≠ .settle)
    (h : draining [a] busy = false) : busy = false := by
  cases a with
  | settle => exact absurd rfl unsettled
  | take | ring _ => cases h
  | trigger _ | complete _ _ | invalidate | shutdown | react | wait _ => exact h

/-- The pump runs while anything is in flight, and between drains only then. -/
structure Pumped (busy : Bool) (r : Requests) : Prop where
  needed : r.inFlight ≠ [] → r.polling = true
  useful : busy = false → r.polling = true → r.inFlight ≠ []

theorem Pumped.act {d : Dispatcher} {busy : Bool} (h : Pumped busy d.requests) (a : Act) :
    Pumped (draining [a] busy) (d.act a).value.requests := by
  have effect := act_effect a d
  generalize (d.act a).value.requests = r' at effect
  cases effect with
  | kept generation plain =>
    exact ⟨h.needed, fun rest => h.useful (not_draining_before plain.unsettled rest)⟩
  | made t plain =>
    have polls : (d.requests.trigger t).polling = true := by
      cases pump : d.requests.pump <;> simp [Requests.polling, Requests.trigger, pump]
    exact ⟨fun _ => polls, fun _ _ => by simp [Requests.trigger]⟩
  | ended found => exact ⟨h.needed, h.useful⟩
  | taken head =>
    refine ⟨fun flying => h.needed fun none => flying ?_, fun rest => by cases rest⟩
    simp [afterTake, none]
  | shut down => exact ⟨fun flying => absurd rfl flying, fun _ polls => by cases polls⟩
  | settled =>
    unfold Requests.settle
    split
    next none =>
      have none : d.requests.inFlight = [] := by simpa using none
      exact ⟨fun flying => absurd none flying, fun _ polls => by cases polls⟩
    next some =>
      have flying : d.requests.inFlight ≠ [] := by simpa using some
      exact ⟨fun _ => h.needed flying, fun _ _ => flying⟩
  | rung t => exact ⟨fun _ => rfl, fun rest => by cases rest⟩

theorem pumped_perform {d : Dispatcher} {busy : Bool} (h : Pumped busy d.requests)
    (history : List Act) :
    Pumped (draining history busy) (d.perform history).value.requests := by
  induction history using List.reverseRecOn with
  | nil => exact h
  | append_singleton history a ih =>
    rw [perform_concat, draining_append]
    exact ih.act a

/-- Between the steps of a run no drain is under way. -/
theorem not_draining_waitActs (limit rings : Nat) (d : Dispatcher) :
    draining (waitActs limit rings d) false = false := by
  induction rings generalizing d with
  | zero => rfl
  | succ rings ih =>
    unfold waitActs
    cases d.requests.pump with
    | none => rfl
    | some a =>
      dsimp only
      split
      · rw [draining_append, drainActs, ← List.cons_append, draining_append]
        exact ih _
      · rfl

theorem not_draining_acts (steps : List Step) (d : Dispatcher) :
    draining (d.acts steps) false = false := by
  induction steps generalizing d with
  | nil => rfl
  | cons s steps ih =>
    have rests : draining (d.stepActs s) false = false := by
      cases s with
      | drain => rw [stepActs, drainActs, draining_append]; rfl
      | advance ms => exact not_draining_waitActs _ _ d
      | trigger _ | complete _ _ | invalidate | shutdown => rfl
    rw [acts, draining_append, rests]
    exact ih _

/-! ## Results -/

/-- Requests that are under way have numbers of their own, and among them are those in
flight. -/
structure Numbered (r : Requests) : Prop where
  distinct : r.openNumbers.Nodup
  made : ∀ n ∈ r.openNumbers, n < r.made
  inFlight : r.inFlight.Nodup
  open' : ∀ n ∈ r.inFlight, n ∈ r.openNumbers

theorem Numbered.waiting_ne_queue {r : Requests} (h : Numbered r) {w : Nat × Nat} {q : Queued}
    (waits : w ∈ r.waiting) (queued : q ∈ r.queue) : w.1 ≠ q.number := by
  have distinct := h.distinct
  simp only [openNumbers, underWay, List.map_append, List.map_map] at distinct
  exact (List.nodup_append.mp distinct).2.2 _ (List.mem_map_of_mem waits) _
    (List.mem_map_of_mem (f := (·.1) ∘ fun q => (q.number, q.generation)) queued)

theorem Numbered.trigger {r : Requests} (h : Numbered r) (t : Moment) :
    Numbered (r.trigger t) := by
  have perm : (r.trigger t).openNumbers.Perm (r.made :: r.openNumbers) :=
    (underWay_trigger r t).map _
  have new : r.made ∉ r.openNumbers := fun old => Nat.lt_irrefl _ (h.made _ old)
  refine ⟨perm.nodup_iff.mpr (List.nodup_cons.mpr ⟨new, h.distinct⟩), fun n hn => ?_, ?_,
    fun n hn => ?_⟩
  · rcases List.mem_cons.mp (perm.mem_iff.mp hn) with rfl | old
    · exact Nat.lt_succ_self _
    · exact Nat.lt_succ_of_lt (h.made n old)
  · have apart : ∀ n ∈ r.inFlight, n ≠ r.made := fun n flying same =>
      new (h.open' _ (same ▸ flying))
    exact List.nodup_append.mpr ⟨h.inFlight, List.nodup_singleton _, by simpa using apart⟩
  · rcases List.mem_append.mp hn with old | new
    · exact perm.mem_iff.mpr (List.mem_cons_of_mem _ (h.open' n old))
    · exact perm.mem_iff.mpr (List.mem_singleton.mp new ▸ List.mem_cons_self)

theorem Numbered.act {d : Dispatcher} (h : Numbered d.requests) (a : Act) :
    Numbered (d.act a).value.requests := by
  have effect := act_effect a d
  generalize (d.act a).value.requests = r' at effect
  cases effect with
  | kept generation plain => exact ⟨h.distinct, h.made, h.inFlight, h.open'⟩
  | made t plain => exact h.trigger t
  | @ended number c w found =>
    obtain ⟨l, perm, sub⟩ := underWay_ended c found
    have fewer : (afterEnd d.requests number w.2 c).openNumbers.Subperm d.requests.openNumbers :=
      ⟨l.map (·.1), perm.map _, sub.map _⟩
    refine ⟨?_, fun n hn => h.made n (fewer.subset hn), h.inFlight, fun n hn => ?_⟩
    · obtain ⟨l', perm', sub'⟩ := fewer
      exact perm'.nodup_iff.mp (h.distinct.sublist sub')
    · -- the request that ends leaves those that wait and comes into the queue
      by_cases same : n = number
      · exact mem_openNumbers.mpr (.inr ⟨⟨number, w.2, c⟩, by simp [afterEnd], same.symm⟩)
      · rcases mem_openNumbers.mp (h.open' n hn) with ⟨v, waits, rfl⟩ | ⟨q, queued, rfl⟩
        · exact mem_openNumbers.mpr (.inl ⟨v, by simp [afterEnd, waits, same], rfl⟩)
        · exact mem_openNumbers.mpr (.inr ⟨q, by simp [afterEnd, queued], rfl⟩)
  | @taken q rest head =>
    have perm : d.requests.openNumbers.Perm
        (q.number :: (afterTake d.requests q rest).openNumbers) := by
      simp only [openNumbers, underWay, afterTake, head, List.map_append, List.map_cons]
      exact List.perm_middle
    obtain ⟨-, distinct⟩ := List.nodup_cons.mp (perm.nodup_iff.mp h.distinct)
    refine ⟨distinct, fun n hn => h.made n (perm.mem_iff.mpr (List.mem_cons_of_mem _ hn)),
      h.inFlight.filter _, fun n hn => ?_⟩
    obtain ⟨flying, other⟩ := List.mem_filter.mp hn
    rcases List.mem_cons.mp (perm.mem_iff.mp (h.open' n flying)) with taken | kept
    · simp [taken] at other
    · exact kept
  | shut down => exact ⟨h.distinct, h.made, .nil, fun n hn => absurd hn List.not_mem_nil⟩
  | settled =>
    unfold Requests.settle
    split
    · exact ⟨h.distinct, h.made, h.inFlight, h.open'⟩
    · exact h
  | rung t => exact ⟨h.distinct, h.made, h.inFlight, h.open'⟩

variable {poll : Nat} {source : Nat → Option Completion} {reactions : List Reaction}

theorem numbered_perform (history : List Act) :
    Numbered ((fresh poll source reactions).perform history).value.requests := by
  induction history using List.reverseRecOn with
  | nil =>
    exact ⟨.nil, fun n hn => absurd hn List.not_mem_nil, .nil,
      fun n hn => absurd hn List.not_mem_nil⟩
  | append_singleton history a ih =>
    rw [perform_concat]
    exact ih.act a

/-- A request that has ended does not wait any more, and what is in the queue for it is what it
has come to. -/
structure Concluded (d : Dispatcher) (history : List Act) (r : Requests) : Prop where
  past : ∀ n c, d.Ended history n c → d.requests.atOnce n = some c ∨ n < r.made
  waiting : ∀ w ∈ r.waiting, ∀ c, ¬ d.Ended history w.1 c
  queue : ∀ q ∈ r.queue, ∀ c, d.Ended history q.number c → c = q.completion

/-- An act after which the same requests wait, and no others are in the queue, concludes
nothing new. -/
theorem Concluded.frame {d : Dispatcher} {history : List Act} {a : Act} {r r' : Requests}
    (h : d.Concluded history r) (unended : ∀ n c, ¬ (d.perform history).value.Completes a n c)
    (made : r.made ≤ r'.made) (waiting : r'.waiting = r.waiting) (queue : r'.queue ⊆ r.queue) :
    d.Concluded (history ++ [a]) r' := by
  have old : ∀ n c, d.Ended (history ++ [a]) n c → d.Ended history n c := fun n c ended =>
    (ended_concat.mp ended).resolve_right (unended n c)
  refine ⟨fun n c ended => ?_, fun w hw c ended => ?_, fun q hq c ended => ?_⟩
  · rcases h.past n c (old n c ended) with atOnce | before
    · exact .inl atOnce
    · exact .inr (Nat.lt_of_lt_of_le before made)
  · exact h.waiting w (waiting ▸ hw) c (old w.1 c ended)
  · exact h.queue q (queue hq) c (old q.number c ended)

theorem Concluded.act {d : Dispatcher} {history : List Act}
    (numbered : Numbered (d.perform history).value.requests)
    (atOnce : (d.perform history).value.requests.atOnce = d.requests.atOnce)
    (h : d.Concluded history (d.perform history).value.requests) (a : Act) :
    d.Concluded (history ++ [a]) ((d.perform history).value.act a).value.requests := by
  have effect := act_effect a (d.perform history).value
  generalize ((d.perform history).value.act a).value.requests = r' at effect
  cases effect with
  | kept generation plain => exact h.frame plain.unended (Nat.le_refl _) rfl (List.Subset.refl _)
  | made t plain =>
    have old : ∀ n c, d.Ended (history ++ [a]) n c → d.Ended history n c := fun n c ended =>
      (ended_concat.mp ended).resolve_right (plain.unended n c)
    -- of the new request nothing is known but what the source has for it at once
    have new : ∀ c, d.Ended history (d.perform history).value.requests.made c →
        (d.perform history).value.requests.atOnce (d.perform history).value.requests.made =
          some c := fun c ended =>
      atOnce ▸ (h.past _ c ended).resolve_right (Nat.lt_irrefl _)
    refine ⟨fun n c ended => ?_, fun w hw c ended => ?_, fun q hq c ended => ?_⟩
    · exact (h.past n c (old n c ended)).imp_right Nat.lt_succ_of_lt
    · rcases mem_waiting_trigger hw with hw | ⟨none, rfl⟩
      · exact h.waiting w hw c (old w.1 c ended)
      · rw [new c (old _ c ended)] at none
        cases none
    · rcases mem_queue_trigger hq with hq | ⟨c', some, rfl⟩
      · exact h.queue q hq c (old q.number c ended)
      · rw [new c (old _ c ended)] at some
        exact Option.some.inj some
  | @ended number c w found =>
    have waits : w ∈ (d.perform history).value.requests.waiting := List.mem_of_find?_eq_some found
    obtain rfl : w.1 = number := by simpa using List.find?_some found
    have now : ∀ n c', d.Ended (history ++ [.complete w.1 c]) n c' →
        d.Ended history n c' ∨ n = w.1 ∧ c' = c := by
      intro n c' ended
      rcases ended_concat.mp ended with before | ⟨same, -⟩
      · exact .inl before
      · obtain ⟨rfl, rfl⟩ := Act.complete.inj same
        exact .inr ⟨rfl, rfl⟩
    refine ⟨fun n c' ended => ?_, fun v hv c' ended => ?_, fun q hq c' ended => ?_⟩
    · rcases now n c' ended with before | ⟨rfl, -⟩
      · exact h.past n c' before
      · exact .inr (numbered.made _ (mem_openNumbers.mpr (.inl ⟨w, waits, rfl⟩)))
    · obtain ⟨hv, other⟩ := List.mem_filter.mp hv
      rcases now v.1 c' ended with before | ⟨same, -⟩
      · exact h.waiting v hv c' before
      · simp [same] at other
    · rcases List.mem_append.mp hq with hq | hq
      · rcases now q.number c' ended with before | ⟨same, -⟩
        · exact h.queue q hq c' before
        · exact absurd same.symm (numbered.waiting_ne_queue waits hq)
      · obtain rfl := List.mem_singleton.mp hq
        rcases now w.1 c' ended with before | ⟨-, same⟩
        · exact absurd before (h.waiting w waits c')
        · exact same
  | @taken q rest head =>
    refine h.frame (by simp [Completes]) (Nat.le_refl _) rfl ?_
    rw [head]
    exact List.subset_cons_self _ _
  | shut down =>
    refine h.frame ?_ (Nat.le_refl _) rfl (List.Subset.refl _)
    rintro n c ⟨rfl, -⟩
    rcases down with e | ⟨e, -⟩ <;> cases e
  | settled =>
    unfold Requests.settle
    split <;> exact h.frame (by simp [Completes]) (Nat.le_refl _) rfl (List.Subset.refl _)
  | rung t => exact h.frame (by simp [Completes]) (Nat.le_refl _) rfl (List.Subset.refl _)

theorem concluded_perform (history : List Act) :
    let d := fresh poll source reactions
    d.Concluded history (d.perform history).value.requests := by
  intro d
  induction history using List.reverseRecOn with
  | nil =>
    have atOnce : ∀ n c, d.Ended [] n c → d.requests.atOnce n = some c := by
      rintro n c (atOnce | ⟨before, after, e, -⟩)
      · exact atOnce
      · simp at e
    exact ⟨fun n c ended => .inl (atOnce n c ended), fun w hw => absurd hw List.not_mem_nil,
      fun q hq => absurd hq List.not_mem_nil⟩
  | append_singleton history a ih =>
    rw [perform_concat]
    exact ih.act (numbered_perform history) (accounted_perform history).atOnce a

/-- **Nothing that was asked for is lost.** Every run is a sequence of acts, and between its
steps no drain is under way. Whatever acts were done since no request was made: the requests in
flight are those that are outstanding, each counted once; between drains the pump runs exactly
as long as there are any; and what an outstanding request has come to is in the queue, exactly
once, while the pump runs. -/
theorem outstanding_counted (poll : Nat) (source : Nat → Option Completion)
    (reactions : List Reaction) :
    let d := fresh poll source reactions
    (∀ steps, d.run steps = d.perform (d.acts steps) ∧ draining (d.acts steps) false = false) ∧
    ∀ history, let r := (d.perform history).value.requests
      (∀ n, n ∈ r.inFlight ↔ d.Outstanding history n) ∧
      r.inFlight.length = Set.ncard {n | d.Outstanding history n} ∧
      (draining history false = false → (r.polling = true ↔ 0 < r.inFlight.length)) ∧
      ∀ n c, d.Outstanding history n → d.Ended history n c →
        r.polling = true ∧ (∃ generation, ⟨n, generation, c⟩ ∈ r.queue) ∧
          (r.queue.map (·.number)).count n = 1 := by
  intro d
  refine ⟨fun steps => ⟨run_eq_perform steps d, not_draining_acts steps d⟩, fun history => ?_⟩
  intro r
  have numbered : Numbered r := numbered_perform history
  have flying : ∀ n, n ∈ r.inFlight ↔ d.Outstanding history n := mem_inFlight_perform rfl history
  have pumped : Pumped (draining history false) r :=
    pumped_perform ⟨fun flying => absurd rfl flying, fun _ polls => by cases polls⟩ history
  have concluded : d.Concluded history r := concluded_perform history
  refine ⟨flying, ?_, fun rests => ?_, fun n c outstanding ended => ?_⟩
  · have same : {n | d.Outstanding history n} = r.inFlight.toFinset := by
      ext n
      simp [flying]
    rw [same, Set.ncard_coe_finset, List.toFinset_card_of_nodup numbered.inFlight]
  · rw [List.length_pos_iff]
    exact ⟨pumped.useful rests, pumped.needed⟩
  · have inFlight := (flying n).mpr outstanding
    have polls := pumped.needed (List.ne_nil_of_mem inFlight)
    rcases mem_openNumbers.mp (numbered.open' n inFlight) with ⟨w, waits, rfl⟩ | ⟨q, queued, rfl⟩
    · exact absurd ended (concluded.waiting w waits c)
    · obtain rfl := concluded.queue q queued c ended
      refine ⟨polls, ⟨q.generation, queued⟩, List.count_eq_one_of_mem ?_ ?_⟩
      · have distinct := numbered.distinct
        simp only [openNumbers, underWay, List.map_append, List.map_map] at distinct
        exact (List.nodup_append.mp distinct).2.1
      · exact List.mem_map_of_mem queued

/-- A listener that shuts down in the middle of a drain, and asks again in the next one: of three
requests the last is in flight, and its result waits for the pump. -/
theorem outstanding_counted_after_shutdown :
    let d := fresh 35 (fun _ => none) [.shutdown, .trigger "c"]
    let before : List Act :=
      [.trigger "a", .complete 0 (.success []), .take, .react, .settle,
        .trigger "b", .complete 1 (.success []), .take, .react, .settle]
    let history := before ++ [.complete 2 .cancelled]
    Set.ncard {n | d.Outstanding history n} = 1 ∧
      (d.perform history).value.requests.polling = true ∧
      ((d.perform history).value.requests.queue.map (·.number)).count 2 = 1 := by
  intro d before history
  have one : (d.perform history).value.requests.inFlight = [2] := by decide +kernel
  have waits : (2, 4) ∈ (d.perform before).value.requests.waiting := by decide +kernel
  have counted := (outstanding_counted 35 (fun _ => none) [.shutdown, .trigger "c"]).2 history
  have ended : d.Ended history 2 .cancelled := .inr ⟨before, [], rfl, 4, waits⟩
  have rests : draining history false = false := by decide
  generalize (d.perform history).value.requests = r at one counted ⊢
  obtain ⟨flying, number, pumped, results⟩ := counted
  have outstanding : d.Outstanding history 2 := (flying 2).mp (by simp [one])
  obtain ⟨-, -, once⟩ := results 2 .cancelled outstanding ended
  exact ⟨by simpa [one] using number.symm, (pumped rests).mpr (by simp [one]), once⟩

end Dispatcher
end LiveLint
