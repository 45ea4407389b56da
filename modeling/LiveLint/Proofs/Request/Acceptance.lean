import LiveLint.Proofs.Request.Acts
import Mathlib.Data.List.Induction
import Mathlib.Data.List.Perm.Subperm

/-! # What becomes of requests

Every request has a generation of its own, and as long as its result was not taken no other
request that is under way shares it. A result is accepted when its generation is the newest
at that moment, so no generation is accepted twice and none after a newer one. What is
accepted was carried by the end of the very request that was made in that generation. -/

namespace LiveLint

/-- The findings in an end of a request: those of a success, or the one of an error that has
a position. -/
inductive Completion.Carries : Completion → List Item → Prop where
  | success (items : List Item) : Carries (.success items) items
  | failure {e : LintError} {a : Finding} (h : e.finding? = .ok (some a)) :
    Carries (.failure e) [.finding a]

/-- The newest request is accepted with what its end carries; an end that carries nothing is
reported. -/
theorem Delivery.ofCompletion_cases (generation : Nat) (c : Completion) :
    (∃ items, c.Carries items ∧ ofCompletion generation c = .accepted generation items) ∨
      (∀ items, ¬ c.Carries items) ∧ ∃ text, ofCompletion generation c = .status text := by
  cases c with
  | success items => exact .inl ⟨items, .success items, rfl⟩
  | failure e =>
    cases e with
    | parse p expected => exact .inl ⟨_, .failure rfl, rfl⟩
    | transformation p cause => exact .inl ⟨_, .failure rfl, rfl⟩
    | transport _ | other _ =>
      refine .inr ⟨?_, _, rfl⟩
      rintro _ (_ | h)
      cases h
  | listless => exact .inr ⟨nofun, _, rfl⟩
  | stray v => exact .inr ⟨nofun, _, rfl⟩
  | raised f => exact .inr ⟨nofun, _, rfl⟩
  | cancelled => exact .inr ⟨nofun, _, rfl⟩

namespace Requests

/-- The requests after one of them has ended. -/
def afterEnd (r : Requests) (number generation : Nat) (c : Completion) : Requests :=
  { r with
    waiting := r.waiting.filter (·.1 != number)
    queue := r.queue ++ [⟨number, generation, c⟩] }

/-- The requests after a result was taken and `rest` are left. -/
def afterTake (r : Requests) (q : Queued) (rest : List Queued) : Requests :=
  { r with queue := rest, inFlight := r.inFlight.filter (· != q.number) }

/-- The delivery of a result that is taken. -/
def deliveryOf (r : Requests) (q : Queued) : Delivery :=
  if q.generation = r.generation then .ofCompletion q.generation q.completion else .stale

theorem take?_cons {r : Requests} {q : Queued} {rest : List Queued} (head : r.queue = q :: rest) :
    r.take? = some (r.deliveryOf q, r.afterTake q rest) := by
  simp only [take?, head]
  rfl

theorem take?_nil {r : Requests} (empty : r.queue = []) : r.take? = none := by
  simp only [take?, empty]

/-- The generations of the requests whose results were not taken. -/
def openGenerations (r : Requests) : List Nat :=
  r.waiting.map (·.2) ++ r.queue.map (·.generation)

/-- The requests whose results were not taken, by number and generation. -/
def underWay (r : Requests) : List (Nat × Nat) :=
  r.waiting ++ r.queue.map fun q => (q.number, q.generation)

theorem openGenerations_eq (r : Requests) : r.openGenerations = r.underWay.map (·.2) := by
  simp [openGenerations, underWay]

theorem underWay_trigger (r : Requests) (t : Moment) :
    (r.trigger t).underWay.Perm ((r.made, r.generation + 1) :: r.underWay) := by
  cases h : r.atOnce r.made with
  | none =>
    simp only [underWay, trigger, h, Option.isNone_none, if_true, List.append_assoc,
      List.singleton_append]
    exact List.perm_middle
  | some c =>
    simp only [underWay, trigger, h, Option.isNone_some, Bool.false_eq_true, if_false,
      List.map_append, List.map_cons, List.map_nil, ← List.append_assoc]
    exact List.perm_append_singleton _ _

/-- The request that ends is no longer among those that wait. -/
theorem underWay_ended {r : Requests} {number : Nat} {w : Nat × Nat} (c : Completion)
    (found : r.waiting.find? (·.1 == number) = some w) :
    (r.afterEnd number w.2 c).underWay.Subperm r.underWay := by
  have named : (number, w.2) = w := by
    have same : w.1 = number := by simpa using List.find?_some found
    rw [← same]
  have ends : [w].Sublist (r.waiting.filter fun v => !(v.1 != number)) := by
    refine List.singleton_sublist.mpr (List.mem_filter.mpr ⟨List.mem_of_find?_eq_some found, ?_⟩)
    simpa using List.find?_some found
  have kept : (r.waiting.filter (·.1 != number) ++ [w]).Subperm r.waiting :=
    ((List.Sublist.refl _).append ends).subperm.trans
      (List.filter_append_perm (·.1 != number) r.waiting).subperm
  refine List.Subperm.trans (List.Perm.subperm ?_)
    (kept.append (List.Subperm.refl (r.queue.map fun q => (q.number, q.generation))))
  simp only [underWay, afterEnd, List.map_append, List.map_cons, List.map_nil, List.append_assoc,
    named]
  exact (List.perm_append_comm).append_left _

end Requests

namespace Dispatcher
open Requests

/-! ## What an act can do -/

/-- What an act makes of the requests, and what the outside sees of it at the time `now`. -/
inductive Change (now : Nat) (r : Requests) : Act → Requests → List Event → Prop where
  /-- No request is made, none ends, and no result is taken. -/
  | still {a : Act} {r' : Requests} (waiting : r'.waiting = r.waiting) (queue : r'.queue = r.queue)
      (made : r'.made = r.made) (atOnce : r'.atOnce = r.atOnce)
      (generation : r.generation ≤ r'.generation) (empty : a = .take → r.queue = []) :
      Change now r a r' []
  | made {a : Act} (document : String) (t : Moment) (other : a ≠ .take) :
      Change now r a (r.trigger t) [.request document]
  | ended {number : Nat} {c : Completion} {w : Nat × Nat}
      (found : r.waiting.find? (·.1 == number) = some w) :
      Change now r (.complete number c) (afterEnd r number w.2 c) []
  | taken {q : Queued} {rest : List Queued} (head : r.queue = q :: rest) :
      Change now r .take (afterTake r q rest) (announced now (deliveryOf r q))

theorem act_change (a : Act) (d : Dispatcher) :
    Change d.now d.requests a (d.act a).value.requests (d.act a).events := by
  cases a with
  | trigger document => exact .made document d.moment fun h => by cases h
  | complete number c =>
    simp only [act, Requests.complete?]
    cases h : d.requests.waiting.find? (·.1 == number) with
    | none => exact .still rfl rfl rfl rfl (Nat.le_refl _) fun h => by cases h
    | some w => exact .ended h
  | invalidate => exact .still rfl rfl rfl rfl (Nat.le_succ _) fun h => by cases h
  | shutdown => exact .still rfl rfl rfl rfl (Nat.le_succ _) fun h => by cases h
  | take =>
    cases h : d.requests.queue with
    | nil =>
      simp only [act, take?_nil h]
      exact .still rfl rfl rfl rfl (Nat.le_refl _) fun _ => h
    | cons q rest =>
      simp only [act, take?_cons h]
      exact .taken h
  | react =>
    simp only [act]
    cases d.reactions with
    | nil => exact .still rfl rfl rfl rfl (Nat.le_refl _) fun h => by cases h
    | cons reaction rest =>
      cases reaction with
      | trigger document => exact .made document _ fun h => by cases h
      | invalidate => exact .still rfl rfl rfl rfl (Nat.le_succ _) fun h => by cases h
      | shutdown => exact .still rfl rfl rfl rfl (Nat.le_succ _) fun h => by cases h
  | settle =>
    simp only [act, Requests.settle]
    split <;> exact .still rfl rfl rfl rfl (Nat.le_refl _) fun h => by cases h
  | ring a => exact .still rfl rfl rfl rfl (Nat.le_refl _) fun h => by cases h
  | wait limit => exact .still rfl rfl rfl rfl (Nat.le_refl _) fun h => by cases h

/-! ## Generations -/

def generation? : Event → Option Nat
  | .accepted generation _ _ => some generation
  | _ => none

/-- The generations that were accepted, in order. -/
def accepted (events : List Event) : List Nat := events.filterMap generation?

@[simp] theorem accepted_nil : accepted [] = [] := rfl

@[simp] theorem accepted_append (events more : List Event) :
    accepted (events ++ more) = accepted events ++ accepted more := List.filterMap_append

@[simp] theorem accepted_request (document : String) : accepted [.request document] = [] := rfl

@[simp] theorem accepted_announced (now : Nat) (delivery : Delivery) :
    accepted (announced now delivery) = match delivery with
      | .accepted generation _ => [generation]
      | _ => [] := by
  cases delivery <;> rfl

theorem openGenerations_trigger (r : Requests) (t : Moment) :
    (openGenerations (r.trigger t)).Perm ((r.generation + 1) :: openGenerations r) := by
  rw [openGenerations_eq, openGenerations_eq]
  exact (underWay_trigger r t).map _

theorem openGenerations_ended {r : Requests} {number : Nat} {w : Nat × Nat} (c : Completion)
    (found : r.waiting.find? (·.1 == number) = some w) :
    (openGenerations (afterEnd r number w.2 c)).Subperm (openGenerations r) := by
  obtain ⟨l, perm, sub⟩ := underWay_ended c found
  rw [openGenerations_eq, openGenerations_eq]
  exact ⟨l.map (·.2), perm.map _, sub.map _⟩

/-- Requests under way have generations of their own, none newer than the current one, and
none that was accepted. -/
structure Ordered (past : List Nat) (r : Requests) : Prop where
  increasing : past.Pairwise (· < ·)
  distinct : (openGenerations r).Nodup
  bounded : ∀ g ∈ openGenerations r, g ≤ r.generation
  apart : ∀ g ∈ past, g ≤ r.generation ∧ g ∉ openGenerations r

theorem Ordered.mono {past : List Nat} {r r' : Requests} (h : Ordered past r)
    (fewer : (openGenerations r').Subperm (openGenerations r))
    (newer : r.generation ≤ r'.generation) : Ordered past r' where
  increasing := h.increasing
  distinct := by
    obtain ⟨l, perm, sub⟩ := fewer
    exact perm.nodup_iff.mp (h.distinct.sublist sub)
  bounded g hg := Nat.le_trans (h.bounded g (fewer.subset hg)) newer
  apart g hg := ⟨Nat.le_trans (h.apart g hg).1 newer, fun open' => (h.apart g hg).2 (fewer.subset open')⟩

theorem Ordered.trigger {past : List Nat} {r : Requests} (h : Ordered past r) (t : Moment) :
    Ordered past (r.trigger t) := by
  have perm := openGenerations_trigger r t
  have newest : (r.trigger t).generation = r.generation + 1 := rfl
  refine ⟨h.increasing, perm.nodup_iff.mpr (List.nodup_cons.mpr ⟨fun hg => ?_, h.distinct⟩),
    fun g hg => ?_, fun g hg => ⟨?_, fun open' => ?_⟩⟩
  · have := h.bounded _ hg
    omega
  · rcases List.mem_cons.mp (perm.mem_iff.mp hg) with rfl | hg
    · exact Nat.le_of_eq newest.symm
    · have := h.bounded g hg
      omega
  · have := (h.apart g hg).1
    omega
  · rcases List.mem_cons.mp (perm.mem_iff.mp open') with rfl | open'
    · have := (h.apart _ hg).1
      omega
    · exact (h.apart g hg).2 open'

theorem Ordered.taken {past : List Nat} {r : Requests} {q : Queued} {rest : List Queued}
    (h : Ordered past r) (head : r.queue = q :: rest) (now : Nat) :
    Ordered (past ++ accepted (announced now (deliveryOf r q))) (afterTake r q rest) := by
  have perm : (openGenerations r).Perm (q.generation :: openGenerations (afterTake r q rest)) := by
    simp only [openGenerations, afterTake, head, List.map_cons]
    exact List.perm_middle
  have less : Ordered past (afterTake r q rest) :=
    h.mono ((List.sublist_cons_self _ _).subperm.trans perm.symm.subperm) (Nat.le_refl _)
  have gone := (List.nodup_cons.mp (perm.nodup_iff.mp h.distinct)).1
  have was := perm.mem_iff.mpr List.mem_cons_self
  unfold deliveryOf
  split
  next newest =>
    obtain ⟨items, -, e⟩ | ⟨-, text, e⟩ := Delivery.ofCompletion_cases q.generation q.completion
    · -- what was accepted before is no newer, and it is not the generation that is taken now
      have older : ∀ g ∈ past, g < q.generation := fun g hg =>
        Nat.lt_of_le_of_ne (newest ▸ (h.apart g hg).1) fun same => (h.apart g hg).2 (same ▸ was)
      rw [e]
      refine ⟨List.pairwise_append.mpr ⟨h.increasing, List.pairwise_singleton _ _, ?_⟩,
        less.distinct, less.bounded, fun g hg => ?_⟩
      · simpa using older
      · rcases List.mem_append.mp hg with hg | hg
        · exact less.apart g hg
        · obtain rfl : g = q.generation := by simpa using hg
          exact ⟨Nat.le_of_eq newest, gone⟩
    · simpa [e] using less
  next => simpa using less

theorem Ordered.change {past : List Nat} {now : Nat} {r r' : Requests} {a : Act}
    {events : List Event} (h : Ordered past r) (c : Change now r a r' events) :
    Ordered (past ++ accepted events) r' := by
  cases c with
  | still waiting queue _ _ generation _ =>
    have same : openGenerations r' = openGenerations r := by
      simp only [openGenerations, waiting, queue]
    simpa using h.mono (same ▸ List.Subperm.refl _) generation
  | made document t _ => simpa using h.trigger t
  | ended found => simpa using h.mono (openGenerations_ended _ found) (Nat.le_refl _)
  | taken head => exact h.taken head now

/-! ## Histories -/

/-- In the history after `d`, the request of that number was made in that generation. -/
def MadeIn (d : Dispatcher) (history : List Act) (number generation : Nat) : Prop :=
  ∃ before a after, history = before ++ a :: after ∧
    (d.perform before).value.requests.made = number ∧
    (d.perform (before ++ [a])).value.requests.made = number + 1 ∧
    (d.perform (before ++ [a])).value.requests.generation = generation

/-- In the history after `d`, the request of that number came to `c`: at once, or when an act
completed it while it was waiting. -/
def Ended (d : Dispatcher) (history : List Act) (number : Nat) (c : Completion) : Prop :=
  d.requests.atOnce number = some c ∨
    ∃ before after, history = before ++ .complete number c :: after ∧
      ∃ generation, (number, generation) ∈ (d.perform before).value.requests.waiting

theorem MadeIn.append {d : Dispatcher} {history : List Act} {number generation : Nat}
    (h : d.MadeIn history number generation) (more : List Act) :
    d.MadeIn (history ++ more) number generation := by
  obtain ⟨before, a, after, rfl, facts⟩ := h
  exact ⟨before, a, after ++ more, by simp, facts⟩

theorem Ended.append {d : Dispatcher} {history : List Act} {number : Nat} {c : Completion}
    (h : d.Ended history number c) (more : List Act) : d.Ended (history ++ more) number c := by
  obtain h | ⟨before, after, rfl, facts⟩ := h
  · exact .inl h
  · exact .inr ⟨before, after ++ more, by simp, facts⟩

/-- Whatever waits or lies in the queue has been made, and what lies in the queue has ended. -/
structure Accounted (d : Dispatcher) (history : List Act) (r : Requests) : Prop where
  atOnce : r.atOnce = d.requests.atOnce
  waiting : ∀ w ∈ r.waiting, d.MadeIn history w.1 w.2
  made : ∀ q ∈ r.queue, d.MadeIn history q.number q.generation
  ended : ∀ q ∈ r.queue, d.Ended history q.number q.completion

theorem perform_concat (history : List Act) (a : Act) (d : Dispatcher) :
    (d.perform (history ++ [a])).value = ((d.perform history).value.act a).value := by
  rw [perform_append, Logged.bind_value, perform_one]

/-- The facts on old requests stay; only a request that is made or ends needs a new one. -/
theorem Accounted.append {d : Dispatcher} {history : List Act} {r : Requests}
    (h : Accounted d history r) (more : List Act) : Accounted d (history ++ more) r where
  atOnce := h.atOnce
  waiting w hw := (h.waiting w hw).append more
  made q hq := (h.made q hq).append more
  ended q hq := (h.ended q hq).append more

theorem mem_waiting_trigger {r : Requests} {t : Moment} {w : Nat × Nat}
    (h : w ∈ (r.trigger t).waiting) :
    w ∈ r.waiting ∨ r.atOnce r.made = none ∧ w = (r.made, r.generation + 1) := by
  simp only [Requests.trigger] at h
  split at h
  next waits => simpa [Option.isNone_iff_eq_none.mp waits] using h
  next => exact .inl h

theorem mem_queue_trigger {r : Requests} {t : Moment} {q : Queued} (h : q ∈ (r.trigger t).queue) :
    q ∈ r.queue ∨ ∃ c, r.atOnce r.made = some c ∧ q = ⟨r.made, r.generation + 1, c⟩ := by
  simp only [Requests.trigger] at h
  split at h
  next c atOnce => simpa [atOnce] using h
  next => exact .inl h

theorem Accounted.act {d : Dispatcher} {history : List Act}
    (h : Accounted d history (d.perform history).value.requests) (a : Act) :
    Accounted d (history ++ [a]) (d.perform (history ++ [a])).value.requests := by
  have old := h.append [a]
  have c := act_change a (d.perform history).value
  have done := congrArg Dispatcher.requests (perform_concat history a d)
  rw [done]
  generalize ((d.perform history).value.act a).value.requests = r',
    ((d.perform history).value.act a).events = events at c done
  cases c with
  | still waiting queue _ atOnce _ _ =>
    exact ⟨atOnce ▸ old.atOnce, waiting ▸ old.waiting, queue ▸ old.made, queue ▸ old.ended⟩
  | made document t _ =>
    have made : d.MadeIn (history ++ [a]) (d.perform history).value.requests.made
        ((d.perform history).value.requests.generation + 1) :=
      ⟨history, a, [], rfl, rfl, congrArg Requests.made done, congrArg Requests.generation done⟩
    refine ⟨old.atOnce, fun w hw => ?_, fun q hq => ?_, fun q hq => ?_⟩
    · rcases mem_waiting_trigger hw with hw | ⟨-, rfl⟩
      · exact old.waiting w hw
      · exact made
    · rcases mem_queue_trigger hq with hq | ⟨c, -, rfl⟩
      · exact old.made q hq
      · exact made
    · rcases mem_queue_trigger hq with hq | ⟨c, atOnce, rfl⟩
      · exact old.ended q hq
      · exact .inl (h.atOnce ▸ atOnce)
  | @ended number c w found =>
    have mem := List.mem_of_find?_eq_some found
    obtain rfl : w.1 = number := by simpa using List.find?_some found
    refine ⟨old.atOnce, fun v hv => old.waiting v (List.mem_filter.mp hv).1, fun q hq => ?_,
      fun q hq => ?_⟩
    · rcases List.mem_append.mp hq with hq | hq
      · exact old.made q hq
      · obtain rfl := List.mem_singleton.mp hq
        exact old.waiting w mem
    · rcases List.mem_append.mp hq with hq | hq
      · exact old.ended q hq
      · obtain rfl := List.mem_singleton.mp hq
        exact .inr ⟨history, [], rfl, w.2, mem⟩
  | @taken q rest head =>
    have more : ∀ p ∈ rest, p ∈ (d.perform history).value.requests.queue := fun p hp =>
      head ▸ List.mem_cons_of_mem q hp
    exact ⟨old.atOnce, old.waiting, fun p hp => old.made p (more p hp),
      fun p hp => old.ended p (more p hp)⟩

variable {poll : Nat} {source : Nat → Option Completion} {reactions : List Reaction}

/-- A dispatcher that has not made any request. -/
def fresh (poll : Nat) (source : Nat → Option Completion) (reactions : List Reaction) :
    Dispatcher :=
  { requests := { poll, atOnce := source }, reactions }

theorem accounted_perform (history : List Act) :
    Accounted (fresh poll source reactions) history
      ((fresh poll source reactions).perform history).value.requests := by
  induction history using List.reverseRecOn with
  | nil => exact ⟨rfl, nofun, nofun, nofun⟩
  | append_singleton history a ih => exact ih.act a

theorem ordered_perform (history : List Act) :
    Ordered (accepted ((fresh poll source reactions).perform history).events)
      ((fresh poll source reactions).perform history).value.requests := by
  induction history using List.reverseRecOn with
  | nil => exact ⟨.nil, .nil, nofun, nofun⟩
  | append_singleton history a ih =>
    rw [perform_append, Logged.bind_events, Logged.bind_value, perform_one, accepted_append]
    exact ih.change (act_change a _)

/-- An acceptance is the answer to the result at the head of the queue. -/
theorem accepted_of_act {d : Dispatcher} {a : Act} {g now : Nat} {items : List Item}
    (h : Event.accepted g items now ∈ (d.act a).events) :
    ∃ q rest, d.requests.queue = q :: rest ∧ q.generation = g ∧ g = d.requests.generation ∧
      q.completion.Carries items := by
  have c := act_change a d
  generalize (d.act a).value.requests = r', (d.act a).events = events at c h
  cases c with
  | still | ended => cases h
  | made => simp at h
  | @taken q rest head =>
    unfold deliveryOf at h
    split at h
    next newest =>
      obtain ⟨found, carries, e⟩ | ⟨-, text, e⟩ :=
        Delivery.ofCompletion_cases q.generation q.completion
      · obtain ⟨rfl, rfl, -⟩ : g = q.generation ∧ items = found ∧ now = d.now := by
          simpa [e, announced] using h
        exact ⟨q, rest, head, rfl, newest, carries⟩
      · simp [e, announced] at h
    next => simp [announced] at h

/-- The result at the head of the queue is answered once if it is the newest, and else never. -/
theorem take_events {d : Dispatcher} {q : Queued} {rest : List Queued}
    (head : d.requests.queue = q :: rest) :
    (d.act .take).events = announced d.now (deliveryOf d.requests q) := by
  simp only [act, take?_cons head]

/-- **Only the newest request is answered, and once.** A run is a sequence of acts. Whatever
acts were done since no request was made, in any order: the generations that were accepted
ascend; an acceptance is of the current generation, and of what the request made in that
generation carried at its end; and the result that is taken next, which is the end of a
request of its generation, is answered by exactly one event if that generation is the
current one, and by none otherwise. -/
theorem answers_newest_once (poll : Nat) (source : Nat → Option Completion)
    (reactions : List Reaction) :
    let d := fresh poll source reactions
    (∀ steps, d.run steps = d.perform (d.acts steps)) ∧
    ∀ history, let e := (d.perform history).value
      (accepted (d.perform history).events).Pairwise (· < ·) ∧
      (∀ a g items now, .accepted g items now ∈ (e.act a).events →
        g = e.requests.generation ∧
        ∃ number c, d.MadeIn history number g ∧ d.Ended history number c ∧ c.Carries items) ∧
      ∀ q rest, e.requests.queue = q :: rest →
        d.MadeIn history q.number q.generation ∧ d.Ended history q.number q.completion ∧
        (q.generation = e.requests.generation →
          (∃ items, (e.act .take).events = [.accepted q.generation items e.now]) ∨
            ∃ text, (e.act .take).events = [.status text e.now]) ∧
        (q.generation ≠ e.requests.generation → (e.act .take).events = []) := by
  intro d
  refine ⟨fun steps => run_eq_perform steps d, fun history => ?_⟩
  have accounted : Accounted d history (d.perform history).value.requests :=
    accounted_perform history
  refine ⟨(ordered_perform history).increasing, fun a g items now h => ?_, fun q rest head => ?_⟩
  · obtain ⟨q, rest, head, rfl, newest, carries⟩ := accepted_of_act h
    have mem := head ▸ List.mem_cons_self
    exact ⟨newest, q.number, q.completion, accounted.made q mem, accounted.ended q mem, carries⟩
  · have mem := head ▸ List.mem_cons_self
    refine ⟨accounted.made q mem, accounted.ended q mem, fun newest => ?_, fun stale => ?_⟩
    · rw [take_events head, deliveryOf, if_pos newest]
      obtain ⟨items, -, e⟩ | ⟨-, text, e⟩ :=
        Delivery.ofCompletion_cases q.generation q.completion
      · exact .inl ⟨items, by rw [e]; rfl⟩
      · exact .inr ⟨text, by rw [e]; rfl⟩
    · rw [take_events head, deliveryOf, if_neg stale]
      rfl

/-- Of two requests the second is accepted although it ended first, and the first is silent. -/
theorem second_answered_first_silent :
    let d := fresh 35 (fun _ => none) []
    let history : List Act :=
      [.trigger "a", .trigger "b", .complete 1 (.success []), .complete 0 .cancelled]
    (∃ number c, d.MadeIn history number 2 ∧ d.Ended history number c ∧ c.Carries []) ∧
      ((d.perform (history ++ [.take])).value.act .take).events = [] := by
  intro d history
  obtain ⟨-, answers⟩ := answers_newest_once 35 (fun _ => none) []
  obtain ⟨-, accepted, -⟩ := answers history
  obtain ⟨-, -, results⟩ := answers (history ++ [.take])
  exact ⟨(accepted .take 2 [] 0 (.head _)).2, (results _ _ rfl).2.2.2 (by decide)⟩

end Dispatcher
end LiveLint
