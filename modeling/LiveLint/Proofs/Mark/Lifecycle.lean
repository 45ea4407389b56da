import LiveLint.Proofs.Mark.Board
import LiveLint.Proofs.Tooltip.Stage

/-! # The life of a mark

A renderer makes a mark for each finding that it is given, and forgets all marks together with the
next operation. Here whole histories of operations are followed call by call, with others who
listen to the marks in between: when each mark is shown and taken off, what is on the surface at
any time, and who is told. -/

namespace LiveLint.Rendering
open Board SurfaceCall

variable {L : Type}

/-- The groups that are shown after an operation. -/
def Operation.groups : Operation → List LineGroup
  | .render groups => groups
  | .clear => []

/-- The groups that are shown after a history. -/
def shown (steps : List (Step L)) : List LineGroup :=
  steps.foldl (fun _ s => s.operation.groups) []

theorem weave_calls (calls : List SurfaceCall) (meanwhile : List (List (Listening L))) :
    (weave calls meanwhile).filterMap Act.call? = calls := by
  have listening : ∀ xs : List (Listening L), (xs.map Act.listen).filterMap Act.call? = [] := by
    intro xs
    simp [Act.call?]
  induction calls generalizing meanwhile with
  | nil => exact listening _
  | cons c calls ih =>
    cases meanwhile with
    | nil => exact congrArg (c :: ·) (ih [])
    | cons now rest =>
      rw [weave, List.filterMap_append, listening]
      exact congrArg (c :: ·) (ih rest)

/-! ## Histories of acts -/

def stepActs (s : Step L) (r : Rendering L) : List (Act L) :=
  weave (operate r.board.marks.length s.operation r.renderer).1 s.meanwhile

theorem stepActs_calls (s : Step L) (r : Rendering L) :
    (r.stepActs s).filterMap Act.call? =
      (operate r.board.marks.length s.operation r.renderer).1 := weave_calls _ _

section

variable [BEq L]

/-- The acts of which a history consists. -/
def acts : List (Step L) → Rendering L → List (Act L)
  | [], _ => []
  | s :: steps, r => r.stepActs s ++ acts steps (r.step s).value

theorem step_eq (s : Step L) (r : Rendering L) :
    r.step s =
      let y := r.board.actAll r.renderer.lookup (r.stepActs s)
      ⟨{ renderer := (operate r.board.marks.length s.operation r.renderer).2, board := y.value },
        y.events⟩ := by
  unfold step stepActs
  generalize operate r.board.marks.length s.operation r.renderer = x
  obtain ⟨calls, renderer⟩ := x
  ext1
  · rfl
  · exact List.append_nil _

theorem operate_lookup (next : Nat) (op : Operation) (r : Renderer) :
    (operate next op r).2.lookup = r.lookup := by
  cases op <;> rfl

/-- **A history is the sequence of its acts.** -/
theorem run_does (steps : List (Step L)) (r : Rendering L) :
    r.board.actAll r.renderer.lookup (r.acts steps) =
      ⟨(r.run steps).value.board, (r.run steps).events⟩ := by
  induction steps generalizing r with
  | nil => rfl
  | cons s steps ih =>
    have rest := ih (r.step s).value
    have run : r.run (s :: steps) = r.step s >>= run steps := rfl
    rw [acts, actAll_append, run]
    rw [step_eq] at rest ⊢
    dsimp only at rest ⊢
    rw [operate_lookup] at rest
    simp only [bind, rest]

end

/-! ## Between operations -/

/-- Groups are shown, by a renderer that looks its examples up in `lookup`. -/
structure Rendered (lookup : Option ExampleLookup) (groups : List LineGroup) (r : Rendering L) :
    Prop where
  looked : r.renderer.lookup = lookup
  holds : Surface.Holds r.renderer r.board.surface
  /-- The marks that are shown are the newest. -/
  newest : ∃ old : List (Mark L),
    r.board.marks.bare = old ++ (allFindings groups).map (Mark.ofFinding lookup) ∧
    r.renderer.live = List.range' old.length (allFindings groups).length
  inGutter : allFindings groups = [] → r.renderer.inGutter = false

namespace Rendered

variable {lookup : Option ExampleLookup} {groups : List LineGroup} {r : Rendering L}

/-- The surface accepts all calls of an operation, and the renderer knows what comes of it. -/
theorem accepts (h : Rendered lookup groups r) (op : Operation) :
    let x := operate r.board.marks.length op r.renderer
    Surface.AcceptsAll r.board.marks.length r.board.surface x.1 ∧
      Surface.Holds x.2 (r.board.surface.applyAll x.1) := by
  intro x
  obtain ⟨cleared, empty⟩ := h.holds.clear r.board.marks.length
  cases op with
  | clear =>
    have blank : Surface.Holds x.2 {} := ⟨rfl, by simp [x, operate, Renderer.clear]⟩
    exact ⟨cleared, empty ▸ blank⟩
  | render next =>
    have calls : x.1 = r.renderer.clear.1 ++
      r.renderer.clear.2.addGroups r.board.marks.length next := rfl
    obtain ⟨added, marks, gutter⟩ :=
      Surface.applyAll_addGroups r.renderer.clear.2 r.board.marks.length next {}
    rw [calls, Surface.acceptsAll_append, Surface.applyAll_append, empty, Renderer.clear_handed]
    refine ⟨⟨cleared, added⟩, ?_, ?_⟩
    · rw [marks, List.range'_eq_map_range]
      rfl
    · rw [gutter, or_iff_right (not_not_intro rfl)]
      rfl

theorem start (gutter : Bool) (lookup : Option ExampleLookup) :
    Rendered lookup [] ({ renderer := { gutter, lookup } } : Rendering L) where
  looked := rfl
  holds := ⟨rfl, by simp⟩
  newest := ⟨[], rfl, rfl⟩
  inGutter _ := rfl

/-- The marks of the findings are listed, in their order. -/
theorem live_marks (h : Rendered lookup groups r) :
    r.renderer.live.filterMap (r.board.marks.bare[·]?) =
      (allFindings groups).map (Mark.ofFinding lookup) := by
  obtain ⟨old, marks, live⟩ := h.newest
  rw [live, filterMap_getElem?_range' (by simp [marks]), marks, List.drop_left]

variable [BEq L]

theorem step (h : Rendered lookup groups r) (s : Step L) :
    Rendered lookup s.operation.groups (r.step s).value := by
  obtain ⟨-, holds⟩ := h.accepts s.operation
  obtain ⟨looked, -, -, -⟩ := h
  let x := operate r.board.marks.length s.operation r.renderer
  have surface : (r.step s).value.board.surface = r.board.surface.applyAll x.1 := by
    rw [step_eq, actAll_surface, stepActs_calls]
  have bare : (r.step s).value.board.marks.bare =
      MarkTable.performAll lookup x.1 r.board.marks.bare := by
    rw [step_eq, looked, actAll_bare, stepActs_calls]
  have renderer : (r.step s).value.renderer = x.2 := by rw [step_eq]
  refine ⟨?_, by rwa [renderer, surface], ?_, ?_⟩
  · rw [renderer, operate_lookup, looked]
  · rw [renderer, bare]
    obtain ⟨op, meanwhile⟩ := s
    cases op with
    | clear => exact ⟨_, (List.append_nil _).symm, rfl⟩
    | render next =>
      have size : r.board.marks.bare.length = r.board.marks.length := List.length_map _
      have unmade := performAll_length lookup r.renderer.clear.1 r.board.marks.bare
      rw [Renderer.clear_handed, size] at unmade
      refine ⟨MarkTable.performAll lookup r.renderer.clear.1 r.board.marks.bare, ?_, ?_⟩
      · exact (MarkTable.performAll_append _ _ _ _).trans (MarkTable.performAll_addGroups _ _ _ _ _)
      · rw [unmade, List.range'_eq_map_range]
        rfl
  · intro empty
    rw [renderer]
    obtain ⟨op, meanwhile⟩ := s
    cases op with
    | clear => rfl
    | render next =>
      have empty : ∀ g ∈ next, g.findings = [] := List.flatMap_eq_nil_iff.mp empty
      have blank : (next.any fun g => !g.findings.isEmpty) = false := by simpa using empty
      exact (congrArg (r.renderer.gutter && ·) blank).trans (Bool.and_false _)

theorem run (h : Rendered lookup groups r) (steps : List (Step L)) :
    Rendered lookup (steps.foldl (fun _ s => s.operation.groups) groups) (r.run steps).value := by
  induction steps generalizing r groups with
  | nil => exact h
  | cons s steps ih => exact ih (h.step s)

theorem accepts_acts (h : Rendered lookup groups r) (steps : List (Step L)) :
    Surface.AcceptsAll r.board.marks.length r.board.surface
      ((r.acts steps).filterMap Act.call?) := by
  induction steps generalizing r groups with
  | nil => trivial
  | cons s steps ih =>
    have rest := ih (h.step s)
    have board : (r.step s).value.board =
      (r.board.actAll r.renderer.lookup (r.stepActs s)).value := by rw [step_eq]
    rw [board, actAll_length, actAll_surface, stepActs_calls] at rest
    rw [acts, List.filterMap_append, stepActs_calls, Surface.acceptsAll_append]
    exact ⟨(h.accepts s.operation).1, rest⟩

end Rendered

/-! ## One operation -/

theorem mem_handed_iff {calls : List SurfaceCall} {n : Nat} {a : Finding} :
    (a, n) ∈ calls.filterMap handed? ↔ .add n a ∈ calls := by
  rw [List.mem_filterMap]
  constructor
  · rintro ⟨c, hc, handed⟩
    cases c with
    | add number b =>
      obtain ⟨rfl, rfl⟩ := Prod.mk.inj (Option.some.inj handed)
      exact hc
    | remove _ | setGutter _ _ _ | clearGutter => cases handed
  · exact fun ha => ⟨_, ha, rfl⟩

theorem addGroups_removed (r : Renderer) (next : Nat) (groups : List LineGroup) (n : Nat) :
    .remove n ∉ r.addGroups next groups := by
  have shown : ∀ (next : Nat) (xs : List Finding), .remove n ∉ Renderer.addMarks next xs := by
    intro next xs
    induction xs generalizing next with
    | nil => exact List.not_mem_nil
    | cons a xs ih => simp [Renderer.addMarks, ih]
  have marked : ∀ g : LineGroup, .remove n ∉ r.gutterCall g := by
    intro g
    unfold Renderer.gutterCall
    split <;> simp
  induction groups generalizing next with
  | nil => exact List.not_mem_nil
  | cons g rest ih => simp [Renderer.addGroups, shown, marked, ih]

theorem add_not_mem_clear (r : Renderer) (n : Nat) (a : Finding) : .add n a ∉ r.clear.1 := by
  rw [← mem_handed_iff, Renderer.clear_handed]
  exact List.not_mem_nil

/-- What was shown is taken away first, and the marks that are shown then are new. -/
theorem operate_calls (next : Nat) (op : Operation) (r : Renderer) :
    ∃ added, (operate next op r).1 = r.clear.1 ++ added ∧ (∀ n, .remove n ∉ added) ∧
      ∀ n a, .add n a ∈ added → next ≤ n := by
  cases op with
  | clear => exact ⟨[], (List.append_nil _).symm, nofun, nofun⟩
  | render groups =>
    refine ⟨r.clear.2.addGroups next groups, rfl, addGroups_removed _ _ _, fun n a ha => ?_⟩
    rw [← mem_handed_iff, Renderer.addGroups_handed] at ha
    exact (List.mem_zipIdx ha).1

/-- Nothing is taken off after something was shown. -/
theorem operate_ordered (next : Nat) (op : Operation) (r : Renderer) :
    (operate next op r).1.Pairwise fun c d => ∀ n a k, c = .add n a → d ≠ .remove k := by
  obtain ⟨added, calls, kept, -⟩ := operate_calls next op r
  have first : ∀ c ∈ r.clear.1, ∀ n a, c ≠ .add n a := by
    rintro _ hc n a rfl
    exact add_not_mem_clear r n a hc
  have last : ∀ d ∈ added, ∀ k, d ≠ .remove k := by
    rintro _ hd k rfl
    exact kept k hd
  rw [calls, List.pairwise_append]
  refine ⟨?_, ?_, fun c hc _ _ n a k e => absurd e (first c hc n a)⟩
  · exact List.pairwise_of_forall_mem_list fun c hc _ _ n a k e => absurd e (first c hc n a)
  · exact List.pairwise_of_forall_mem_list fun _ _ d hd n a k _ => last d hd k

section

variable {lookup : Option ExampleLookup} {groups : List LineGroup} {r : Rendering L}

/-- All that an operation takes off is taken off before it shows anything. -/
theorem removed_before_added (s : Step L) {before after : List (Act L)} {n : Nat} {a : Finding}
    (split : r.stepActs s = before ++ .call (.add n a) :: after) (k : Nat) :
    .call (.remove k) ∉ after := by
  have ordered := operate_ordered r.board.marks.length s.operation r.renderer
  have calls : (Act.call (.add n a) :: after).filterMap Act.call? =
      .add n a :: after.filterMap Act.call? := rfl
  rw [← stepActs_calls, split, List.filterMap_append, calls] at ordered
  obtain ⟨later, -⟩ := List.pairwise_cons.mp (List.pairwise_append.mp ordered).2.1
  exact fun removed => later _ (mem_calls_iff.mpr removed) n a k rfl rfl

/-- During an operation, only marks of before or only new ones are on the surface. -/
theorem old_or_new [BEq L] (h : Rendered lookup groups r) (s : Step L) {before after : List (Act L)}
    (split : r.stepActs s = before ++ after) :
    let marks := (r.board.actAll lookup before).value.surface.marks
    (∀ n ∈ marks, n ∈ r.renderer.live) ∨ (∀ n ∈ marks, r.board.marks.length ≤ n) := by
  obtain ⟨added, calls, -, new⟩ := operate_calls r.board.marks.length s.operation r.renderer
  rw [← stepActs_calls, split, List.filterMap_append] at calls
  rw [actAll_surface]
  rcases List.append_eq_append_iff.mp calls with ⟨more, clear, -⟩ | ⟨early, cleared, rest⟩
  · refine .inl fun n held => ?_
    rw [← h.holds.marks]
    refine (Surface.mem_of_mem_applyAll held).resolve_right ?_
    rintro ⟨a, ha⟩
    exact add_not_mem_clear r.renderer n a (clear ▸ List.mem_append_left _ ha)
  · refine .inr fun n held => ?_
    rw [cleared, Surface.applyAll_append, (h.holds.clear r.board.marks.length).2] at held
    obtain ⟨a, ha⟩ := (Surface.mem_of_mem_applyAll held).resolve_left List.not_mem_nil
    exact new n a (rest ▸ List.mem_append_left _ ha)

end

/-! ## The life of marks -/

section

variable [BEq L] {lookup : Option ExampleLookup} {acts before after : List (Act L)}

/-- At any time of a history that the surface accepts, the board is known. -/
theorem sound_before (lookup : Option ExampleLookup)
    (accepts : Surface.AcceptsAll 0 {} ((before ++ after).filterMap Act.call?)) :
    let y := ({} : Board L).actAll lookup before
    Sound y.events y.value := by
  rw [List.filterMap_append, Surface.acceptsAll_append] at accepts
  exact Sound.start.actAll lookup (b := {}) accepts.1

/-- A call comes at a time when the surface accepts it. -/
theorem accepts_at (lookup : Option ExampleLookup) {c : SurfaceCall}
    (accepts : Surface.AcceptsAll 0 {} ((before ++ .call c :: after).filterMap Act.call?)) :
    let b := (({} : Board L).actAll lookup before).value
    b.surface.Accepts b.marks.length c := by
  have calls : (Act.call c :: after).filterMap Act.call? = c :: after.filterMap Act.call? := rfl
  rw [List.filterMap_append, calls, Surface.acceptsAll_append, ← actAll_surface lookup before {},
    ← List.length_nil (α := Mark L), ← actAll_length lookup before {}] at accepts
  exact accepts.2.1

/-- A mark that is taken off was shown before and is alive until then. Those who listen to it are
told once, and whoever begins to listen later is told then. -/
theorem told_when_removed {n : Nat} (accepts : Surface.AcceptsAll 0 {}
      ((before ++ .call (.remove n) :: after).filterMap Act.call?)) :
    let y := ({} : Board L).actAll lookup before
    let z := y.value.act lookup (.call (.remove n))
    (∃ a, .call (.add n a) ∈ before) ∧
      y.events.filterMap (Event.told? n) = [] ∧
      (∃ m, y.value.marks[n]? = some m ∧ m.alive = true ∧
        z.events = .call (.remove n) :: m.handle.listeners.map (.told n)) ∧
      (z.value.actAll lookup after).events.filterMap (Event.told? n) =
        after.filterMap (Act.watched? n) := by
  intro y z
  have sound : Sound y.events y.value := sound_before lookup accepts
  have held : n ∈ y.value.surface.marks := accepts_at lookup accepts
  have unremoved : n ∉ (y.events.filterMap Event.call?).filterMap removed? := fun removed =>
    ((sound.books.removed_iff n).mp removed).2 held
  have inside : n < y.value.marks.length := by
    simpa [MarkTable.bare] using sound.books.inside n held
  have found : y.value.marks[n]? = some y.value.marks[n] := List.getElem?_eq_getElem inside
  have living := sound.alive found unremoved
  obtain ⟨told, revoked⟩ := perform_remove lookup found living
  refine ⟨?_, sound.silent n unremoved, ⟨_, found, living, told⟩, actAll_told lookup revoked after⟩
  have named : (y.value.marks[n].finding, n) ∈ (y.value.marks.bare.map (·.finding)).zipIdx := by
    rw [List.mk_mem_zipIdx_iff_getElem?]
    simp [MarkTable.bare, found]
  rw [← sound.books.handed, actAll_calls, mem_handed_iff, mem_calls_iff] at named
  exact ⟨_, named⟩

end

/-- **Each mark is shown once, and whoever listens to it is told when it is taken off.** This is
so in every history of operations, with any others who listen in between. Each mark that was made
was shown once, and taken off at most once, and later. Those who listen to it then are told, once,
and nobody before; who begins to listen later is told at once. At any time a mark is alive exactly
if the surface holds it. Between operations these are the marks that the renderer lists, one for
each finding of the groups that were rendered last. An operation takes off all marks before it
shows new ones, so that no two operations have marks on the surface at a time. The gutter is
cleared only if it was set since, and nothing is called to clear what was not rendered. -/
theorem life_of_marks [BEq L] (gutter : Bool) (lookup : Option ExampleLookup)
    (steps : List (Step L)) :
    let first : Rendering L := { renderer := { gutter, lookup } }
    let history := first.acts steps
    let x := first.run steps
    let r := x.value
    let calls := x.events.filterMap Event.call?
    first.board.actAll lookup history = ⟨r.board, x.events⟩ ∧
    calls.filterMap handed? = (r.board.marks.map (·.finding)).zipIdx ∧
    (calls.filterMap removed?).Nodup ∧
    (∀ n, n ∉ calls.filterMap removed? → x.events.filterMap (Event.told? n) = []) ∧
    (∀ before n after, history = before ++ .call (.remove n) :: after →
      let y := first.board.actAll lookup before
      let z := y.value.act lookup (.call (.remove n))
      (∃ a, .call (.add n a) ∈ before) ∧
      y.events.filterMap (Event.told? n) = [] ∧
      (∃ m, y.value.marks[n]? = some m ∧ m.alive = true ∧
        z.events = .call (.remove n) :: m.handle.listeners.map (.told n)) ∧
      (z.value.actAll lookup after).events.filterMap (Event.told? n) =
        after.filterMap (Act.watched? n)) ∧
    (∀ before after, history = before ++ after →
      let b := (first.board.actAll lookup before).value
      ∀ n m, b.marks[n]? = some m → (m.alive = true ↔ n ∈ b.surface.marks)) ∧
    r.board.surface.marks = r.renderer.live ∧
    r.renderer.live.filterMap (r.board.marks.bare[·]?) =
      (allFindings (shown steps)).map (Mark.ofFinding lookup) ∧
    (∀ s before n a after, r.stepActs s = before ++ .call (.add n a) :: after →
      ∀ k, .call (.remove k) ∉ after) ∧
    (∀ s before after, r.stepActs s = before ++ after →
      let marks := (r.board.actAll lookup before).value.surface.marks
      (∀ n ∈ marks, n ∈ r.renderer.live) ∨ (∀ n ∈ marks, r.board.marks.length ≤ n)) ∧
    (∀ before after, history = before ++ .call .clearGutter :: after →
      InGutter (before.filterMap Act.call?)) ∧
    (allFindings (shown steps) = [] →
      ∀ meanwhile, (r.step ⟨.clear, meanwhile⟩).events.filterMap Event.call? = []) := by
  intro first history x r calls
  have begun : Rendered lookup [] first := Rendered.start gutter lookup
  have accepts : Surface.AcceptsAll 0 {} (history.filterMap Act.call?) := begun.accepts_acts steps
  have does : first.board.actAll lookup history = ⟨r.board, x.events⟩ := run_does steps first
  have sound : Sound x.events r.board := by
    have whole : Sound (first.board.actAll lookup history).events
        (first.board.actAll lookup history).value := Sound.start.actAll lookup (b := {}) accepts
    rwa [does] at whole
  have rendered : Rendered lookup (shown steps) r := begun.run steps
  refine ⟨does, ?_, sound.books.once, sound.silent, ?_, ?_, rendered.holds.marks,
    rendered.live_marks, fun s _ _ _ _ split => removed_before_added s split,
    fun s _ _ split => old_or_new rendered s split, ?_, fun empty meanwhile => ?_⟩
  · rw [sound.books.handed]
    simp [MarkTable.bare, Function.comp_def]
  · exact fun before n after split => told_when_removed (split ▸ accepts)
  · intro before after split b n m found
    have sound : Sound _ b := sound_before lookup (split ▸ accepts)
    have listed : b.marks.bare[n]? = some m.bare := by simp [MarkTable.bare, found]
    exact sound.alive_iff n m.bare listed
  · intro before after split
    have filled := accepts_at lookup (split ▸ accepts)
    rw [Surface.Accepts, actAll_surface] at filled
    exact Surface.inGutter_of_gutter filled
  · obtain ⟨old, -, live⟩ := rendered.newest
    have none_live : r.renderer.live = [] := by rw [live, empty]; rfl
    rw [step_eq, actAll_calls, stepActs_calls, operate, Renderer.clear, none_live,
      rendered.inGutter empty]
    rfl

/-- Two marks are shown, of which the first has a listener, and taken off again by the next
rendering. Someone who begins to listen then comes too late. -/
theorem life_of_marks_rendered_twice :
    let a : Finding := ⟨⟨⟨1, 1⟩, ⟨1, 2⟩⟩, .error, "bad", "", "", ""⟩
    let groups : List LineGroup := [⟨1, .error, [a, a]⟩]
    let steps : List (Step Nat) :=
      [⟨.render groups, [[], [.watch 0 7, .watch 0 8, .unwatch 0 7]]⟩,
        ⟨.render groups, [[], [.watch 0 9]]⟩]
    let first : Rendering Nat := {}
    let history := first.acts steps
    let y := first.board.actAll none (history.take 6)
    let z := y.value.act none (.call (.remove 0))
    (∃ m, y.value.marks[0]? = some m ∧ m.alive = true ∧
        z.events = .call (.remove 0) :: m.handle.listeners.map (.told 0)) ∧
      (z.value.actAll none (history.drop 7)).events.filterMap (Event.told? 0) = [9] ∧
      (first.run steps).events.filterMap (Event.told? 0) = [8, 9] ∧
      InGutter ((history.take 9).filterMap Act.call?) ∧
      (first.step ⟨.clear, [[.watch 0 9]]⟩).events.filterMap Event.call? = [] := by
  intro a groups steps first history y z
  obtain ⟨-, -, -, -, removed, -, -, -, -, -, cleared, -⟩ := life_of_marks true none steps
  obtain ⟨-, -, -, -, -, -, -, -, -, -, -, blank⟩ := life_of_marks (L := Nat) true none []
  have off : history = history.take 6 ++ .call (.remove 0) :: history.drop 7 := rfl
  have gutter : history = history.take 9 ++ .call .clearGutter :: history.drop 10 := rfl
  have late : (history.drop 7).filterMap (Act.watched? 0) = [9] := by decide +kernel
  have told : (first.run steps).events.filterMap (Event.told? 0) = [8, 9] := by decide +kernel
  obtain ⟨-, -, listeners, rest⟩ := removed _ 0 _ off
  exact ⟨listeners, rest.trans late, told, cleared _ _ gutter, blank rfl _⟩

end LiveLint.Rendering

/-! ## Under a tooltip -/

namespace LiveLint.Stage
open Rendering

variable {P : Type}

/-- A stage without its tooltip. -/
def rendering (s : Stage P) : Rendering Watcher := ⟨s.renderer, ⟨s.surface, s.hover.marks⟩⟩

theorem revoke_handle (t : Moment) (n : Nat) (h : Hover P) (surface : Surface) :
    (⟨surface, (h.revoke t n).value.marks⟩ : Board Watcher) =
      (Board.handle n Handle.revoke ⟨surface, h.marks⟩).value := by
  unfold Hover.revoke Board.handle
  cases h.marks[n]? with
  | none => rfl
  | some m =>
    dsimp only
    rw [Hover.called_marks]

theorem perform_rendering (t : Moment) (s : Stage P) (c : SurfaceCall) :
    (s.perform t c).value.rendering =
      ⟨s.renderer, (s.rendering.board.perform s.renderer.lookup c).value⟩ := by
  cases c with
  | remove number => exact congrArg (Rendering.mk _) (revoke_handle t number _ _)
  | add _ _ | setGutter _ _ _ | clearGutter => rfl

theorem performAll_rendering (t : Moment) (calls : List SurfaceCall) (s : Stage P) :
    (s.performAll t calls).value.rendering =
      ⟨s.renderer, (s.rendering.board.actAll s.renderer.lookup (weave calls [])).value⟩ := by
  induction calls generalizing s with
  | nil => rfl
  | cons c calls ih =>
    have rest := ih (s.perform t c).value
    rw [perform_rendering, perform_renderer] at rest
    exact rest

/-- Calls of a renderer come to the same on a stage, where only the tooltip listens. -/
theorem operate_rendering (t : Moment) (op : Operation) (s : Stage P) :
    let x := operate s.hover.marks.length op s.renderer
    let y := s.rendering.step ⟨op, []⟩
    let z := performAll t x.1 { s with renderer := x.2 }
    z.value.rendering = y.value ∧
      z.events.filterMap Event.call? = y.events.filterMap Board.Event.call? := by
  intro x y z
  have value : z.value.rendering = ⟨x.2, _⟩ := performAll_rendering t x.1 { s with renderer := x.2 }
  have calls : z.events.filterMap Event.call? = x.1 := performAll_calls t _ _
  have same : y = _ := step_eq ⟨op, []⟩ s.rendering
  rw [value, calls, same, operate_lookup, Board.actAll_calls, stepActs_calls]
  exact ⟨rfl, rfl⟩

/-- **A stage is a rendering**, with the tooltip as the only one who listens to its marks. -/
theorem clear_rendering (t : Moment) (s : Stage P) :
    let y := s.rendering.step ⟨.clear, []⟩
    (s.clear t).value.rendering = y.value ∧
      (s.clear t).events.filterMap Event.call? = y.events.filterMap Board.Event.call? :=
  operate_rendering t .clear s

theorem render_rendering (t : Moment) (groups : List LineGroup) (s : Stage P) :
    let y := s.rendering.step ⟨.render groups, []⟩
    (s.render t groups).value.rendering = y.value ∧
      (s.render t groups).events.filterMap Event.call? =
        y.events.filterMap Board.Event.call? :=
  operate_rendering t (.render groups) s

end LiveLint.Stage
