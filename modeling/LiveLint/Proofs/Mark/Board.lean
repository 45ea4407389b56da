import LiveLint.Mark.Rendering
import LiveLint.Proofs.Mark.Surface
import LiveLint.Proofs.Tooltip.Marks

/-! # Marks and those who listen

On a board a mark is alive as long as the surface holds it. When it is taken off, those who
listen to it then are told, and nobody is told before. Who listens makes no difference to the
surface and to which marks there are; so calls come to the same whatever is done between them. -/

namespace LiveLint

namespace Board
open SurfaceCall

variable {L : Type}

def Act.call? : Act L → Option SurfaceCall
  | .call c => some c
  | .listen _ => none

/-- Who begins to listen to a mark by an act. -/
def Act.watched? (n : Nat) : Act L → Option L
  | .listen (.watch k l) => if k = n then some l else none
  | _ => none

def Event.call? : Event L → Option SurfaceCall
  | .call c => some c
  | .told _ _ => none

/-- Who is told that a mark is revoked. -/
def Event.told? (n : Nat) : Event L → Option L
  | .told k l => if k = n then some l else none
  | .call _ => none

theorem mem_calls_iff {acts : List (Act L)} {c : SurfaceCall} :
    c ∈ acts.filterMap Act.call? ↔ .call c ∈ acts := by
  rw [List.mem_filterMap]
  constructor
  · rintro ⟨a, ha, same⟩
    cases a with
    | call d =>
      obtain rfl := Option.some.inj same
      exact ha
    | listen _ => cases same
  · exact fun ha => ⟨_, ha, rfl⟩

/-! ## Handles -/

section

variable (n : Nat) (f : Handle L → Handle L × List L) (b : Board L)

theorem handle_surface : (b.handle n f).value.surface = b.surface := by
  unfold handle
  split <;> rfl

theorem handle_calls : (b.handle n f).events.filterMap Event.call? = [] := by
  unfold handle
  split
  · rfl
  · simp [Event.call?]

theorem handle_told (k : Nat) :
    (b.handle n f).events.filterMap (Event.told? k) =
      if n = k then (b.marks[n]?.map fun m => (f m.handle).2).getD [] else [] := by
  unfold handle
  split
  next absent => simp [absent]
  next m found =>
    by_cases same : n = k
    · subst same
      simp [found, Event.told?, Function.comp_def]
    · simp [Event.told?, same]

variable {f} in
/-- What is done to a handle is done to the mark in the table. -/
theorem handle_bare {g : Mark L → Mark L}
    (h : ∀ m : Mark L, Mark.bare { m with handle := (f m.handle).1 } = g m.bare) :
    (b.handle n f).value.marks.bare = b.marks.bare.modify n g := by
  unfold handle
  split
  next absent =>
    refine (List.modify_eq_self ?_).symm
    rw [MarkTable.bare, List.length_map]
    exact List.getElem?_eq_none_iff.mp absent
  next m found => exact MarkTable.bare_set found (h m)

end

/-! ## Acts and their calls -/

section

variable (lookup : Option ExampleLookup) (c : SurfaceCall) (b : Board L)

theorem perform_surface : (b.perform lookup c).value.surface = b.surface.apply c := by
  cases c with
  | remove number => exact handle_surface _ _ _
  | add _ _ | setGutter _ _ _ | clearGutter => rfl

theorem perform_calls : (b.perform lookup c).events.filterMap Event.call? = [c] := by
  cases c with
  | remove number => exact congrArg (_ :: ·) (handle_calls _ _ _)
  | add _ _ | setGutter _ _ _ | clearGutter => rfl

theorem perform_bare :
    (b.perform lookup c).value.marks.bare = MarkTable.perform lookup b.marks.bare c := by
  cases c with
  | remove number => exact handle_bare _ _ Mark.revoke_bare
  | add _ _ => exact List.map_append
  | setGutter _ _ _ | clearGutter => rfl

end

/-- Those who listen are told when a mark is taken off. -/
theorem perform_told (lookup : Option ExampleLookup) (c : SurfaceCall) (b : Board L) (n : Nat) :
    (b.perform lookup c).events.filterMap (Event.told? n) =
      if c.removed? = some n then (b.marks[n]?.map fun m => m.handle.revoke.2).getD [] else [] := by
  cases c with
  | remove number =>
    have told := handle_told number Handle.revoke
      { b with surface := b.surface.apply (.remove number) } n
    refine told.trans ?_
    by_cases same : number = n
    · subst same
      simp [removed?]
    · simp [removed?, same]
  | add _ _ | setGutter _ _ _ | clearGutter => rfl

section

variable [BEq L] (x : Listening L) (b : Board L)

theorem listen_surface : (b.listen x).value.surface = b.surface := by
  cases x <;> exact handle_surface _ _ _

theorem listen_calls : (b.listen x).events.filterMap Event.call? = [] := by
  cases x <;> exact handle_calls _ _ _

theorem listen_bare : (b.listen x).value.marks.bare = b.marks.bare := by
  cases x with
  | watch number l =>
    have same : ∀ m : Mark L, Mark.bare { m with handle := (m.handle.add l).1 } = id m.bare := by
      intro m
      simp [Mark.bare, Mark.alive, Handle.add_alive]
    exact (handle_bare _ _ same).trans (List.modify_id _ _)
  | unwatch number l =>
    exact (handle_bare (f := fun h => (h.remove l, [])) _ _ fun _ => rfl).trans
      (List.modify_id _ _)

/-- Who begins to listen to a mark is told at once if it was revoked before. -/
theorem listen_told (n : Nat) :
    (b.listen x).events.filterMap (Event.told? n) =
      if (b.marks[n]?.map (·.alive)) = some false then ((Act.listen x).watched? n).toList
      else [] := by
  cases x with
  | watch number l =>
    rw [listen, handle_told, Act.watched?]
    by_cases same : number = n
    · subst same
      cases b.marks[number]? with
      | none => simp
      | some m => cases living : m.handle.alive <;> simp [Handle.add, Mark.alive, living]
    · simp [same]
  | unwatch number l =>
    have unwatched : (Act.listen (.unwatch number l)).watched? n = none := rfl
    rw [listen, handle_told, unwatched]
    cases b.marks[number]? <;> simp

end

/-! ## What holds on a board -/

section

variable {lookup : Option ExampleLookup} {marks : List (Mark L)} {s : Surface} {c : SurfaceCall}

/-- The books go on with each call that is accepted. -/
theorem books_perform {calls : List SurfaceCall}
    (h : Surface.Books (marks.map (·.finding)) calls s) (accepts : s.Accepts marks.length c) :
    Surface.Books ((MarkTable.perform lookup marks c).map (·.finding)) (calls ++ [c])
      (s.apply c) := by
  cases c with
  | add number a =>
    obtain rfl : number = marks.length := accepts
    have more := h.add a
    rw [List.length_map] at more
    simpa [MarkTable.perform] using more
  | remove number =>
    rw [MarkTable.perform, map_modify_of_eq Mark.revoked_finding]
    exact h.remove accepts
  | setGutter _ _ _ | clearGutter => exact h.gutter rfl rfl

/-- With each call, a mark is alive as long as the surface holds it. -/
theorem alive_iff_perform (distinct : s.marks.Nodup)
    (h : ∀ n m, marks[n]? = some m → (m.alive = true ↔ n ∈ s.marks))
    (accepts : s.Accepts marks.length c) {n : Nat} {m : Mark L}
    (found : (MarkTable.perform lookup marks c)[n]? = some m) :
    m.alive = true ↔ n ∈ (s.apply c).marks := by
  cases c with
  | add number a =>
    obtain rfl : number = marks.length := accepts
    have held : n ∈ (s.apply (.add marks.length a)).marks ↔ n ∈ s.marks ∨ n = marks.length := by
      simp [Surface.apply]
    rw [held]
    by_cases old : n < marks.length
    · rw [MarkTable.perform, List.getElem?_append_left old] at found
      rw [h n m found, or_iff_left (Nat.ne_of_lt old)]
    · have last : n < (MarkTable.perform lookup marks (.add marks.length a)).length :=
        (List.getElem?_eq_some_iff.mp found).1
      rw [MarkTable.perform, List.length_append, List.length_singleton] at last
      obtain rfl : n = marks.length := by omega
      rw [MarkTable.perform, List.getElem?_concat_length] at found
      obtain rfl := Option.some.inj found
      exact iff_of_true rfl (.inr rfl)
  | remove number =>
    rw [MarkTable.perform, List.getElem?_modify] at found
    obtain ⟨m', before, rfl⟩ := Option.map_eq_some_iff.mp found
    rw [Surface.apply, distinct.mem_erase_iff, ← h n m' before]
    by_cases same : number = n
    · subst same
      simp [Mark.revoked, Mark.alive]
    · simp [same, Ne.symm same]
  | setGutter _ _ _ | clearGutter => exact h n m found

end

/-- What is known of a board after events. -/
structure Sound (events : List (Event L)) (b : Board L) : Prop where
  books : Surface.Books (b.marks.bare.map (·.finding)) (events.filterMap Event.call?) b.surface
  alive_iff : ∀ n m, b.marks.bare[n]? = some m → (m.alive = true ↔ n ∈ b.surface.marks)
  /-- Nobody is told of a mark before it is taken off. -/
  silent : ∀ n, n ∉ (events.filterMap Event.call?).filterMap removed? →
    events.filterMap (Event.told? n) = []

namespace Sound

variable {events : List (Event L)} {b : Board L}

theorem start : Sound [] ({} : Board L) :=
  ⟨.start, fun _ _ found => by simp [MarkTable.bare] at found, fun _ _ => rfl⟩

theorem perform (h : Sound events b) (lookup : Option ExampleLookup) {c : SurfaceCall}
    (accepts : b.surface.Accepts b.marks.length c) :
    Sound (events ++ (b.perform lookup c).events) (b.perform lookup c).value := by
  obtain ⟨books, alive_iff, silent⟩ := h
  have size : b.marks.length = b.marks.bare.length := (List.length_map _).symm
  rw [size] at accepts
  have calls : (events ++ (b.perform lookup c).events).filterMap Event.call? =
      events.filterMap Event.call? ++ [c] := by
    rw [List.filterMap_append, perform_calls]
  refine ⟨?_, fun n m found => ?_, fun n unremoved => ?_⟩
  · rw [calls, perform_bare, perform_surface]
    exact books_perform books accepts
  · rw [perform_bare] at found
    rw [perform_surface]
    exact alive_iff_perform books.distinct alive_iff accepts found
  · rw [calls, List.filterMap_append, List.mem_append, not_or] at unremoved
    have other : c.removed? ≠ some n := fun same => unremoved.2 (by simp [same])
    rw [List.filterMap_append, silent n unremoved.1, perform_told, if_neg other]
    rfl

/-- The mark of a number that was not taken off is alive. -/
theorem alive (h : Sound events b) {n : Nat} {m : Mark L} (found : b.marks[n]? = some m)
    (unremoved : n ∉ (events.filterMap Event.call?).filterMap removed?) : m.alive = true := by
  have listed : b.marks.bare[n]? = some m.bare := by simp [MarkTable.bare, found]
  refine (h.alive_iff n m.bare listed).mpr ?_
  by_contra gone
  have made : n < (b.marks.bare.map (·.finding)).length := by
    rw [List.length_map]
    exact (List.getElem?_eq_some_iff.mp listed).1
  exact unremoved ((h.books.removed_iff n).mpr ⟨made, gone⟩)

variable [BEq L]

theorem listen (h : Sound events b) (x : Listening L) :
    Sound (events ++ (b.listen x).events) (b.listen x).value := by
  have calls : (events ++ (b.listen x).events).filterMap Event.call? =
      events.filterMap Event.call? := by
    rw [List.filterMap_append, listen_calls, List.append_nil]
  refine ⟨?_, ?_, fun n unremoved => ?_⟩
  · rw [calls, listen_bare, listen_surface]
    exact h.books
  · rw [listen_bare, listen_surface]
    exact h.alive_iff
  · rw [calls] at unremoved
    have living : b.marks[n]?.map (·.alive) ≠ some false := by
      intro dead
      obtain ⟨m, found, off⟩ := Option.map_eq_some_iff.mp dead
      rw [h.alive found unremoved] at off
      cases off
    rw [List.filterMap_append, h.silent n unremoved, listen_told, if_neg living]
    rfl

end Sound

/-! ## Marks that are taken off -/

/-- The mark of a number was revoked. -/
def Revoked (n : Nat) (marks : List (Mark L)) : Prop := marks[n]?.map (·.alive) = some false

theorem revoked_bare {n : Nat} {marks : MarkTable L} : Revoked n marks.bare ↔ Revoked n marks := by
  simp [Revoked, MarkTable.bare, Function.comp_def]

theorem Revoked.perform (lookup : Option ExampleLookup) {n : Nat} {marks : List (Mark L)}
    (h : Revoked n marks) (c : SurfaceCall) : Revoked n (MarkTable.perform lookup marks c) := by
  obtain ⟨m, found, off⟩ := Option.map_eq_some_iff.mp h
  cases c with
  | add number a =>
    have inside := (List.getElem?_eq_some_iff.mp found).1
    simp [Revoked, MarkTable.perform, List.getElem?_append_left inside, found, off]
  | remove number =>
    have dead : m.handle.alive = false := off
    by_cases same : number = n <;>
      simp [Revoked, MarkTable.perform, found, same, dead, Mark.revoked, Mark.alive]
  | setGutter _ _ _ | clearGutter => exact h

/-- Those who listen to a living mark are told when it is taken off, and it is revoked then. -/
theorem perform_remove (lookup : Option ExampleLookup) {n : Nat} {m : Mark L} {b : Board L}
    (found : b.marks[n]? = some m) (living : m.alive = true) :
    (b.perform lookup (.remove n)).events = .call (.remove n) :: m.handle.listeners.map (.told n) ∧
      Revoked n (b.perform lookup (.remove n)).value.marks := by
  have alive : m.handle.alive = true := living
  constructor
  · simp [perform, handle, found, Handle.revoke, alive]
  · refine revoked_bare.mp ?_
    rw [perform_bare]
    simp [Revoked, MarkTable.perform, MarkTable.bare, found, Mark.revoked, Mark.alive]

/-! ## Many acts -/

theorem performAll_length (lookup : Option ExampleLookup) (calls : List SurfaceCall)
    (marks : List (Mark L)) :
    (MarkTable.performAll lookup calls marks).length =
      marks.length + (calls.filterMap handed?).length := by
  induction calls generalizing marks with
  | nil => rfl
  | cons c calls ih =>
    refine (ih _).trans ?_
    rw [List.filterMap_cons]
    cases c <;> simp [MarkTable.perform, handed?, Nat.add_assoc, Nat.add_comm 1]

section

variable [BEq L] (lookup : Option ExampleLookup)

theorem actAll_append (acts more : List (Act L)) (b : Board L) :
    b.actAll lookup (acts ++ more) = b.actAll lookup acts >>= actAll lookup more :=
  List.foldlM_append

theorem actAll_surface (acts : List (Act L)) (b : Board L) :
    (b.actAll lookup acts).value.surface = b.surface.applyAll (acts.filterMap Act.call?) := by
  induction acts generalizing b with
  | nil => rfl
  | cons a acts ih =>
    refine (ih (b.act lookup a).value).trans ?_
    cases a with
    | call c => exact congrArg _ (perform_surface lookup c b)
    | listen x => exact congrArg _ (listen_surface x b)

theorem actAll_bare (acts : List (Act L)) (b : Board L) :
    (b.actAll lookup acts).value.marks.bare =
      MarkTable.performAll lookup (acts.filterMap Act.call?) b.marks.bare := by
  induction acts generalizing b with
  | nil => rfl
  | cons a acts ih =>
    refine (ih (b.act lookup a).value).trans ?_
    cases a with
    | call c => exact congrArg _ (perform_bare lookup c b)
    | listen x => exact congrArg _ (listen_bare x b)

theorem actAll_calls (acts : List (Act L)) (b : Board L) :
    (b.actAll lookup acts).events.filterMap Event.call? = acts.filterMap Act.call? := by
  induction acts generalizing b with
  | nil => rfl
  | cons a acts ih =>
    have rest := ih (b.act lookup a).value
    rw [actAll, List.foldlM_cons, Logged.bind_events, List.filterMap_append, ← actAll, rest]
    cases a with
    | call c => exact congrArg (· ++ _) (perform_calls lookup c b)
    | listen x => exact congrArg (· ++ _) (listen_calls x b)

theorem actAll_length (acts : List (Act L)) (b : Board L) :
    (b.actAll lookup acts).value.marks.length =
      b.marks.length + ((acts.filterMap Act.call?).filterMap handed?).length := by
  have bare := congrArg List.length (actAll_bare lookup acts b)
  rwa [performAll_length, MarkTable.bare, MarkTable.bare, List.length_map, List.length_map] at bare

/-- **What is known of a board stays known** as long as the surface accepts the calls. -/
theorem Sound.actAll {events : List (Event L)} {b : Board L} (h : Sound events b)
    {acts : List (Act L)}
    (accepts : Surface.AcceptsAll b.marks.length b.surface (acts.filterMap Act.call?)) :
    Sound (events ++ (b.actAll lookup acts).events) (b.actAll lookup acts).value := by
  induction acts generalizing b events with
  | nil => simpa [Board.actAll] using h
  | cons a acts ih =>
    have split : (a :: acts).filterMap Act.call? =
        [a].filterMap Act.call? ++ acts.filterMap Act.call? := List.filterMap_append (l := [a])
    rw [split, Surface.acceptsAll_append, ← actAll_surface lookup, ← actAll_length lookup]
      at accepts
    obtain ⟨first, rest⟩ := accepts
    have next : Sound (events ++ (b.act lookup a).events) (b.act lookup a).value := by
      cases a with
      | call c => exact h.perform lookup first.1
      | listen x => exact h.listen x
    rw [Board.actAll, List.foldlM_cons, Logged.bind_events, Logged.bind_value, ← List.append_assoc]
    exact ih next rest

/-- Who begins to listen to a revoked mark is told at once, and nobody else is told of it. -/
theorem actAll_told {n : Nat} {b : Board L} (h : Revoked n b.marks) (acts : List (Act L)) :
    (b.actAll lookup acts).events.filterMap (Event.told? n) = acts.filterMap (Act.watched? n) := by
  induction acts generalizing b with
  | nil => rfl
  | cons a acts ih =>
    have still : Revoked n (b.act lookup a).value.marks := by
      cases a with
      | call c =>
        exact revoked_bare.mp (perform_bare lookup c b ▸ (revoked_bare.mpr h).perform lookup c)
      | listen x => exact revoked_bare.mp (listen_bare x b ▸ revoked_bare.mpr h)
    have first : (b.act lookup a).events.filterMap (Event.told? n) = (a.watched? n).toList := by
      cases a with
      | call c =>
        obtain ⟨m, found, off⟩ := Option.map_eq_some_iff.mp h
        have dead : m.handle.alive = false := off
        refine (perform_told lookup c b n).trans ?_
        simp [found, Handle.revoke, dead, Act.watched?]
      | listen x => exact (listen_told x b n).trans (if_pos h)
    rw [actAll, List.foldlM_cons, Logged.bind_events, List.filterMap_append, first, ← actAll,
      ih still]
    cases h : a.watched? n <;> simp [h]

end

end Board
end LiveLint
