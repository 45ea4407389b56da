import LiveLint.Proofs.Tooltip.Marks
import LiveLint.Proofs.Tooltip.Rest
import LiveLint.Tooltip.HoverRun
import Mathlib.Data.List.Basic

/-! # The turns of a tooltip

Pointers that move, marks that are revoked, alarms that ring and the end of it all come in any
order. Each of these acts is one turn of the tooltip, or two where it leaves one mark for
another: it begins to track a mark or gives it up, shows it, leaves it, or hides. All that a
turn does is said here once, and what holds of the tooltip between acts follows from it. -/

namespace LiveLint

namespace MarkTable

variable {L : Type}

theorem getElem?_update (marks : MarkTable L) (n : Nat) (f : Handle L → Handle L) (i : Nat) :
    (marks.update n f)[i]? =
      marks[i]?.map fun m => if n = i then { m with handle := f m.handle } else m := by
  rw [update, List.getElem?_modify]
  cases marks[i]? <;> simp

theorem isAlive_iff {marks : MarkTable L} {n : Nat} :
    marks.isAlive n = true ↔ ∃ m, marks[n]? = some m ∧ m.alive = true := by
  unfold isAlive
  cases marks[n]? <;> simp

end MarkTable

/-- A tooltip listens to its mark, which is alive, once, and to no other mark. -/
structure Watches (marks : MarkTable Watcher) (mark : Option Nat) : Prop where
  alive : ∀ n, mark = some n → marks.isAlive n = true
  listeners : ∀ n m, marks[n]? = some m →
    m.handle.listeners = if mark = some n then [.hover] else []

/-- The same marks show the same markup, and the tooltip listens to `mark` among them. -/
structure Rewatched (before marks : MarkTable Watcher) (mark : Option Nat) : Prop where
  watches : Watches marks mark
  markup : marks.map (·.markup) = before.map (·.markup)

namespace Watches

variable {marks : MarkTable Watcher} {n : Nat}

theorem map_markup_update (f : Handle Watcher → Handle Watcher) :
    (marks.update n f).map (·.markup) = marks.map (·.markup) := by
  refine map_modify_of_eq ?_ marks n
  exact fun _ => rfl

theorem unwatch (w : Watches marks (some n)) :
    Watches (marks.update n (·.remove .hover)) none := by
  refine ⟨nofun, fun i m hm => ?_⟩
  rw [MarkTable.getElem?_update] at hm
  obtain ⟨m', hm', rfl⟩ := Option.map_eq_some_iff.mp hm
  have listeners := w.listeners i m' hm'
  by_cases same : n = i
  · subst same
    simp [Handle.remove, listeners]
  · simpa [same] using listeners

theorem watch (w : Watches marks none) (alive : marks.isAlive n = true) :
    Watches (marks.update n fun h => (h.add .hover).1) (some n) := by
  obtain ⟨m, found, living⟩ := MarkTable.isAlive_iff.mp alive
  have listening : ∀ m : Mark Watcher, m.alive = true →
      m.handle.add .hover = ({ m.handle with listeners := m.handle.listeners ++ [.hover] }, []) :=
    fun m living => if_pos living
  constructor
  · rintro _ ⟨⟩
    refine MarkTable.isAlive_iff.mpr ⟨_, by rw [MarkTable.getElem?_update, found]; rfl, ?_⟩
    simpa [Mark.alive, Handle.add_alive] using living
  · intro i m' hm
    rw [MarkTable.getElem?_update] at hm
    obtain ⟨m', hm', rfl⟩ := Option.map_eq_some_iff.mp hm
    have listeners := w.listeners i m' hm'
    by_cases same : n = i
    · subst same
      obtain rfl : m = m' := Option.some.inj (found.symm.trans hm')
      simp [listening m living, listeners]
    · simpa [same] using listeners

theorem isAlive_unwatch {k : Nat} (alive : marks.isAlive n = true) :
    (marks.update k (·.remove Watcher.hover)).isAlive n = true := by
  obtain ⟨m, found, living⟩ := MarkTable.isAlive_iff.mp alive
  refine MarkTable.isAlive_iff.mpr ⟨_, by rw [MarkTable.getElem?_update, found]; rfl, ?_⟩
  split <;> exact living

/-- Who listens to a mark after one was revoked. -/
theorem listeners_revoked {mark : Option Nat} (w : Watches marks mark) {i : Nat} {m : Mark Watcher}
    (hm : (marks.modify n Mark.revoked)[i]? = some m) :
    m.handle.listeners = if mark = some i ∧ n ≠ i then [.hover] else [] := by
  rw [List.getElem?_modify] at hm
  obtain ⟨m', hm', rfl⟩ := Option.map_eq_some_iff.mp hm
  by_cases same : n = i
  · simp [same, Mark.revoked]
  · simpa [same] using w.listeners i m' hm'

theorem revoke_other {mark : Option Nat} (w : Watches marks mark) (other : mark ≠ some n) :
    Watches (marks.modify n Mark.revoked) mark := by
  have apart : ∀ i, mark = some i → n ≠ i := by
    rintro i rfl rfl
    exact other rfl
  constructor
  · intro i hi
    obtain ⟨m, found, living⟩ := MarkTable.isAlive_iff.mp (w.alive i hi)
    exact MarkTable.isAlive_iff.mpr ⟨m, by simp [apart i hi, found], living⟩
  · intro i m hm
    rw [w.listeners_revoked hm]
    simp only [and_iff_left_of_imp (apart i)]

theorem revoke_mine (w : Watches marks (some n)) : Watches (marks.modify n Mark.revoked) none := by
  refine ⟨nofun, fun i m hm => ?_⟩
  rw [w.listeners_revoked hm, if_neg (by simp), if_neg nofun]

end Watches

namespace Hover

variable {P : Type} {h : Hover P}

/-- Listening to another mark that is alive, or to none, changes nothing else. -/
theorem setMark_rewatched (w : Watches h.marks h.mark) (mark : Option Nat)
    (alive : ∀ n, mark = some n → h.marks.isAlive n = true) :
    ∃ marks, h.setMark mark = { h with marks, mark } ∧ Rewatched h.marks marks mark := by
  unfold setMark
  by_cases same : mark = h.mark
  · subst same
    exact ⟨h.marks, if_pos rfl, w, rfl⟩
  · rw [if_neg same]
    refine ⟨_, rfl, ?_⟩
    cases before : h.mark with
    | none =>
      rw [before] at w
      cases mark with
      | none => exact ⟨w, rfl⟩
      | some n => exact ⟨w.watch (alive n rfl), Watches.map_markup_update _⟩
    | some k =>
      rw [before] at w
      cases mark with
      | none => exact ⟨w.unwatch, Watches.map_markup_update _⟩
      | some n =>
        refine ⟨w.unwatch.watch (Watches.isAlive_unwatch (alive n rfl)), ?_⟩
        exact (Watches.map_markup_update _).trans (Watches.map_markup_update _)

/-- One turn of a tooltip at a time. -/
inductive Turn (now : Nat) (h : Hover P) : Logged (HoverEvent P) (Hover P) → Prop where
  /-- The pointer is somewhere else. -/
  | point (pos : P) : Turn now h (pure { h with pos })
  /-- The tooltip that is shown follows the pointer. -/
  | follow (showing : h.phase = .showing) : Turn now h ⟨h, [.move h.pos]⟩
  /-- A mark of no concern is revoked. -/
  | pass {marks : MarkTable Watcher} (w : Rewatched h.marks marks h.mark) :
      Turn now h (pure { h with marks })
  | track {marks : MarkTable Watcher} {n : Nat} (w : Rewatched h.marks marks (some n)) {a : Alarm}
      (later : now ≤ a.due) (idle : h.phase = .idle) :
      Turn now h ⟨{ h with marks, mark := some n, phase := .tracking, restAlarm := some a },
        [.phase .tracking]⟩
  | giveUp {marks : MarkTable Watcher} (w : Rewatched h.marks marks none)
      (tracking : h.phase = .tracking) :
      Turn now h ⟨{ h with marks, mark := none, phase := .idle, restAlarm := none },
        [.phase .idle]⟩
  | reveal {marks : MarkTable Watcher} {n : Nat} {m : Mark Watcher}
      (w : Rewatched h.marks marks (some n)) (found : marks[n]? = some m)
      (dark : h.phase ≠ .showing) :
      Turn now h
        ⟨{ h with
            marks, mark := some n, phase := .showing, restAlarm := none, fadeAlarm := none,
            fading := none },
          [.show m.markup h.pos now, .phase .showing]⟩
  /-- The tooltip begins to fade. -/
  | leave {marks : MarkTable Watcher} (w : Rewatched h.marks marks none) (turn : Nat)
      (showing : h.phase = .showing) :
      Turn now h
        ⟨{ h with
            marks, mark := none, phase := .idle, fading := h.mark,
            fadeAlarm := some ⟨now + h.fadeDelay, turn⟩ },
          [.fade now, .phase .idle]⟩
  /-- The tooltip has faded. -/
  | faded (dark : h.phase ≠ .showing) :
      Turn now h ⟨{ h with fadeAlarm := none, fading := none }, [.hide now]⟩
  /-- The tooltip hides and goes to rest. -/
  | hide {marks : MarkTable Watcher} (w : Rewatched h.marks marks none)
      {phases : List (HoverEvent P)} (told : ∀ e ∈ phases, e = .phase .idle) :
      Turn now h
        ⟨{ h with
            marks, mark := none, phase := .idle, restAlarm := none, fadeAlarm := none,
            fading := none },
          .hide now :: phases⟩

/-- Turns, one after the other. -/
inductive Turns (now : Nat) : Hover P → Logged (HoverEvent P) (Hover P) → Prop where
  | none (h : Hover P) : Turns now h (pure h)
  | cons {h : Hover P} {x : Logged (HoverEvent P) (Hover P)}
      {f : Hover P → Logged (HoverEvent P) (Hover P)} (first : Turn now h x)
      (rest : Turns now x.value (f x.value)) : Turns now h (x >>= f)

/-- What holds between acts. -/
structure Settled (h : Hover P) : Prop where
  idle : h.phase = .idle ↔ h.mark = none
  watches : Watches h.marks h.mark
  rest : h.restAlarm.isSome = true ↔ h.phase = .tracking
  fade : h.fadeAlarm.isSome = true ↔ h.fading.isSome = true
  showing : h.phase = .showing → h.fading = none

theorem Settled.turn {now : Nat} (s : Settled h) {x : Logged (HoverEvent P) (Hover P)}
    (turn : Turn now h x) : Settled x.value := by
  obtain ⟨idle, watches, rest, fade, showing⟩ := s
  cases turn with
  | point pos => exact ⟨idle, watches, rest, fade, showing⟩
  | follow shown => exact ⟨idle, watches, rest, fade, showing⟩
  | pass w => exact ⟨idle, w.watches, rest, fade, showing⟩
  | track w _ _ => exact ⟨by simp, w.watches, by simp, fade, by simp⟩
  | giveUp w _ => exact ⟨by simp, w.watches, by simp, fade, by simp⟩
  | reveal w found _ => exact ⟨by simp, w.watches, by simp, by simp, by simp⟩
  | leave w turn shown =>
    have marked : h.mark.isSome = true := by
      rw [Option.isSome_iff_ne_none]
      intro none
      have := idle.mpr none
      simp [shown] at this
    have unset : ¬ h.restAlarm.isSome = true := by simp [rest, shown]
    exact ⟨by simp, w.watches, by simpa using unset, by simp [marked], by simp⟩
  | faded dark => exact ⟨idle, watches, rest, by simp, by simp⟩
  | hide w _ => exact ⟨by simp, w.watches, by simp, by simp, by simp⟩

theorem Settled.turns {now : Nat} (s : Settled h) {x : Logged (HoverEvent P) (Hover P)}
    (turns : Turns now h x) : Settled x.value := by
  induction turns with
  | none h => exact s
  | cons first _ ih => exact ih (s.turn first)

theorem Turn.turns {now : Nat} {x : Logged (HoverEvent P) (Hover P)} (turn : Turn now h x) :
    Turns now h x := by
  rw [← bind_pure x]
  exact .cons turn (.none _)

/-! ## Acts -/

/-- What happens to a tooltip. -/
inductive Act (P : Type) where
  | move (mark : Option Nat) (pos : P)
  | left
  | revoke (mark : Nat)
  | ring (label : HoverAlarm)
  | dispose (hideView : Bool)

def alarm? (h : Hover P) : HoverAlarm → Option Alarm
  | .rest => h.restAlarm
  | .fade => h.fadeAlarm

/-- An act at a moment. An alarm that is not set does not ring. -/
def act (t : Moment) (a : Act P) (h : Hover P) : Logged (HoverEvent P) (Hover P) :=
  match a with
  | .move mark pos => h.move t mark pos
  | .left => h.left t
  | .revoke n => h.revoke t n
  | .ring label => if (h.alarm? label).isSome then h.ring t label else pure h
  | .dispose hideView => h.dispose t hideView

/-- The view is told of an act. -/
def Act.viewed : Act P → Prop
  | .dispose hideView => hideView = true
  | _ => True

theorem setPhase_of_ne {p : HoverPhase} (new : p ≠ h.phase) :
    h.setPhase p = ⟨{ h with phase := p }, [.phase p]⟩ := by
  rw [setPhase, if_neg new]
  rfl

theorem setPhase_told {p : HoverPhase} : ∀ e ∈ (h.setPhase p).events, e = .phase p := by
  unfold setPhase
  split
  · exact nofun
  · exact fun e he => List.mem_singleton.mp he

theorem reveal_eq (t : Moment) {n : Nat} {m : Mark Watcher} (mark : h.mark = some n)
    (found : h.marks[n]? = some m) (dark : h.phase ≠ .showing) :
    h.reveal t =
      ⟨{ h with mark := some n, phase := .showing, fadeAlarm := none, fading := none },
        [.show m.markup h.pos t.now, .phase .showing]⟩ := by
  rw [reveal, mark, Option.bind_some, found]
  dsimp only
  rw [setPhase_of_ne (h := { h with mark := some n, fadeAlarm := none, fading := none }) dark.symm]
  rfl

theorem Settled.restAlarm_eq_none (s : Settled h) (untracked : h.phase ≠ .tracking) :
    h.restAlarm = none := by
  rw [← Option.not_isSome_iff_eq_none, s.rest]
  exact untracked

theorem enter_turns (s : Settled h) (idle : h.phase = .idle) (t : Moment) {n : Nat}
    (alive : h.marks.isAlive n = true) : Turns t.now h (h.enter t n) := by
  have living : ∀ k, some n = some k → h.marks.isAlive k = true := by
    rintro k ⟨⟩
    exact alive
  obtain ⟨marks, e, w⟩ := setMark_rewatched s.watches (some n) living
  have unset := s.restAlarm_eq_none (by simp [idle])
  rw [enter, e]
  by_cases back : h.fading = some n
  · obtain ⟨m, found, -⟩ := MarkTable.isAlive_iff.mp (w.watches.alive n rfl)
    have dark : h.phase ≠ .showing := by simp [idle]
    rw [if_pos back, reveal_eq (h := { h with marks, mark := some n }) t rfl found dark]
    have turn : Turn t.now h _ := .reveal w found dark
    simpa only [unset] using turn.turns
  · have new : HoverPhase.tracking ≠ h.phase := by simp [idle]
    rw [if_neg back, setPhase_of_ne (h := { h with marks, mark := some n }) new]
    exact (Turn.track w (Nat.le_add_right _ _) idle).turns

/-- The pointer comes to a mark or to none. -/
def arrive (t : Moment) (mark : Option Nat) (h : Hover P) : Logged (HoverEvent P) (Hover P) :=
  match mark with
  | some n => h.enter t n
  | none => pure h

theorem arrive_turns (s : Settled h) (idle : h.phase = .idle) (t : Moment) {mark : Option Nat}
    (alive : ∀ n, mark = some n → h.marks.isAlive n = true) : Turns t.now h (h.arrive t mark) := by
  cases mark with
  | none => exact .none h
  | some n => exact enter_turns s idle t (alive n rfl)

theorem leave_turn (s : Settled h) (showing : h.phase = .showing) (t : Moment) :
    Turn t.now h (h.leave t) := by
  obtain ⟨marks, e, w⟩ := setMark_rewatched (h := { h with fading := h.mark }) s.watches none
    nofun
  have new : HoverPhase.idle ≠ h.phase := by simp [showing]
  rw [leave, e, setPhase_of_ne (h := { h with
    fading := h.mark, marks, mark := none, fadeAlarm := some (t.alarm h.fadeDelay) }) new]
  exact Turn.leave (h := h) w t.turn showing

theorem giveUp_turn (s : Settled h) (tracking : h.phase = .tracking) (now : Nat) :
    Turn now h (({ h with restAlarm := none }.setMark none).setPhase .idle) := by
  obtain ⟨marks, e, w⟩ := setMark_rewatched (h := { h with restAlarm := none }) s.watches none
    nofun
  have new : HoverPhase.idle ≠ h.phase := by simp [tracking]
  rw [e, setPhase_of_ne (h := { h with restAlarm := none, marks, mark := none }) new]
  exact Turn.giveUp (h := h) w tracking

theorem isAlive_of_bare {marks before : MarkTable Watcher} (e : marks.bare = before.bare)
    (n : Nat) : marks.isAlive n = before.isAlive n := by
  have same := congrArg (fun table => (table[n]?).map (·.alive)) e
  simp only [MarkTable.bare, List.getElem?_map, Option.map_map] at same
  unfold MarkTable.isAlive
  exact congrArg (Option.getD · false) same

/-- The pointer has moved to where it is, over a living mark or over none. -/
def moveOver (t : Moment) (mark : Option Nat) (h : Hover P) : Logged (HoverEvent P) (Hover P) :=
  match h.phase with
  | .showing =>
    if mark = h.mark then ⟨h, [.move h.pos]⟩ else h.leave t >>= arrive t.next mark
  | .tracking =>
    if mark = h.mark then pure h
    else ({ h with restAlarm := none }.setMark none).setPhase .idle >>= arrive t mark
  | .idle => h.arrive t mark

theorem move_eq_moveOver (t : Moment) (mark : Option Nat) (pos : P) (h : Hover P) :
    h.move t mark pos = moveOver t (mark.filter h.marks.isAlive) { h with pos } := rfl

theorem moveOver_turns (s : Settled h) (t : Moment) {mark : Option Nat}
    (alive : ∀ n, mark = some n → h.marks.isAlive n = true) :
    Turns t.now h (h.moveOver t mark) := by
  -- a mark that is alive before the tooltip leaves another is alive after that
  have still : ∀ g : Hover P, g.marks.bare = h.marks.bare →
      ∀ n, mark = some n → g.marks.isAlive n = true := fun g e n hn =>
    (isAlive_of_bare e n).trans (alive n hn)
  unfold moveOver
  split
  next showing =>
    by_cases same : mark = h.mark
    · rw [if_pos same]
      exact (Turn.follow showing).turns
    · rw [if_neg same]
      have turn := leave_turn s showing t
      have idle : (h.leave t).value.phase = .idle := by
        rw [leave, Logged.bind_value, setPhase_value]
      exact .cons turn (arrive_turns (s.turn turn) idle t.next (still _ (leave_marks t h)))
  next tracking =>
    by_cases same : mark = h.mark
    · rw [if_pos same]
      exact .none h
    · rw [if_neg same]
      have turn := giveUp_turn s tracking t.now
      have idle : (({ h with restAlarm := none }.setMark none).setPhase .idle).value.phase =
          .idle := by rw [setPhase_value]
      exact .cons turn (arrive_turns (s.turn turn) idle t (still _ (by simp)))
  next idle => exact arrive_turns s idle t alive

theorem move_turns (s : Settled h) (t : Moment) (mark : Option Nat) (pos : P) :
    Turns t.now h (h.move t mark pos) := by
  have alive : ∀ n, mark.filter h.marks.isAlive = some n → h.marks.isAlive n = true :=
    fun n hn => (Option.filter_eq_some_iff.mp hn).2
  have turn : Turn t.now h _ := .point pos
  rw [move_eq_moveOver]
  exact .cons (f := moveOver t (mark.filter h.marks.isAlive)) turn
    (moveOver_turns (s.turn turn) t alive)

/-- Of those who listen to a mark, which is the tooltip or nobody, all are called. -/
theorem handle_revoke (w : Watches h.marks h.mark) {n : Nat} {m : Mark Watcher}
    (found : h.marks[n]? = some m) :
    m.handle.revoke = (⟨false, []⟩, if h.mark = some n then [.hover] else []) := by
  have listeners := w.listeners n m found
  unfold Handle.revoke
  split
  next => rw [listeners]
  next dead =>
    have other : h.mark ≠ some n := fun mine => by
      obtain ⟨m', found', living⟩ := MarkTable.isAlive_iff.mp (w.alive n mine)
      obtain rfl : m = m' := Option.some.inj (found.symm.trans found')
      exact dead living
    rw [if_neg other] at listeners ⊢
    rw [Bool.not_eq_true] at dead
    rw [← dead, ← listeners]

theorem revoke_eq (w : Watches h.marks h.mark) (t : Moment) (n : Nat) :
    h.revoke t n =
      if h.mark = some n then { h with marks := h.marks.modify n Mark.revoked }.markRevoked t
      else pure { h with marks := h.marks.modify n Mark.revoked } := by
  unfold revoke
  cases found : h.marks[n]? with
  | none =>
    have other : h.mark ≠ some n := fun mine => by
      obtain ⟨m, hm, -⟩ := MarkTable.isAlive_iff.mp (w.alive n mine)
      simp [found] at hm
    rw [if_neg other, List.modify_eq_self (List.getElem?_eq_none_iff.mp found)]
  | some m =>
    have set : h.marks.set n m.revoked = h.marks.modify n Mark.revoked := by
      rw [List.modify_eq_set_getElem?, found]
      rfl
    rw [← set, Mark.revoked]
    dsimp only
    rw [handle_revoke w found]
    by_cases mine : h.mark = some n
    · rw [if_pos mine, if_pos mine, List.foldlM_cons, if_pos mine]
      exact bind_pure _
    · rw [if_neg mine, if_neg mine]
      rfl

theorem revoke_turns (s : Settled h) (t : Moment) (n : Nat) : Turns t.now h (h.revoke t n) := by
  rw [revoke_eq s.watches]
  by_cases mine : h.mark = some n
  · rw [if_pos mine]
    have w := s.watches
    rw [mine] at w
    have rewatched : Rewatched h.marks (h.marks.modify n Mark.revoked) none :=
      ⟨w.revoke_mine, map_modify_of_eq Mark.revoked_markup _ _⟩
    cases phase : h.phase with
    | idle => simp [s.idle.mp phase] at mine
    | tracking =>
      have turn : Turn t.now h _ := .giveUp rewatched phase
      simpa [markRevoked, phase, setPhase_of_ne] using turn.turns
    | showing =>
      -- while a tooltip is shown, no other fades
      have unfading := s.showing phase
      have told : ∀ e ∈ [HoverEvent.phase (P := P) .idle], e = .phase .idle := by simp
      have turn : Turn t.now h _ := .hide rewatched told
      simpa [markRevoked, phase, setPhase_of_ne, unfading, bind, Logged.publish] using turn.turns
  · rw [if_neg mine]
    exact (Turn.pass ⟨s.watches.revoke_other mine, map_modify_of_eq Mark.revoked_markup _ _⟩).turns

/-- A tooltip that does not rest has a mark, which is alive. -/
theorem Settled.exists_mark (s : Settled h) (busy : h.phase ≠ .idle) :
    ∃ n m, h.mark = some n ∧ h.marks[n]? = some m ∧ m.alive = true := by
  obtain ⟨n, mark⟩ := Option.ne_none_iff_exists'.mp (mt s.idle.mpr busy)
  obtain ⟨m, found, alive⟩ := MarkTable.isAlive_iff.mp (s.watches.alive n mark)
  exact ⟨n, m, mark, found, alive⟩

/-- When the pointer has rested long enough, there is always a living mark to show. -/
theorem ring_rest_eq (s : Settled h) (tracking : h.phase = .tracking) (t : Moment) :
    h.ring t .rest = { h with restAlarm := none }.reveal t := by
  obtain ⟨n, m, mark, found, alive⟩ := s.exists_mark (by simp [tracking])
  have living : h.mark.filter h.marks.isAlive = some n := by
    rw [mark, Option.filter_some, if_pos (MarkTable.isAlive_iff.mpr ⟨m, found, alive⟩)]
  simp [ring, rested, tracking, living]

theorem ring_turn (s : Settled h) (t : Moment) (label : HoverAlarm)
    (set : (h.alarm? label).isSome = true) : Turn t.now h (h.ring t label) := by
  cases label with
  | rest =>
    have tracking := s.rest.mp set
    have dark : h.phase ≠ .showing := by simp [tracking]
    obtain ⟨n, m, mark, found, -⟩ := s.exists_mark (by simp [tracking])
    have w := s.watches
    rw [mark] at w
    rw [ring_rest_eq s tracking, reveal_eq (h := { h with restAlarm := none }) t mark found dark]
    exact Turn.reveal (h := h) ⟨w, rfl⟩ found dark
  | fade =>
    have dark : h.phase ≠ .showing := fun showing => by
      have fading := s.fade.mp set
      simp [s.showing showing] at fading
    exact Turn.faded dark

/-- A tooltip is hidden when it is disposed of. -/
theorem dispose_turn (s : Settled h) (t : Moment) : Turn t.now h (h.dispose t true) := by
  obtain ⟨marks, e, w⟩ := setMark_rewatched
    (h := { h with restAlarm := none, fadeAlarm := none, fading := none }) s.watches none
    nofun
  have told := setPhase_told (p := .idle) (h := { h with
    restAlarm := none, fadeAlarm := none, fading := none, marks, mark := none })
  have turn : Turn t.now h _ := Turn.hide (h := h) w told
  have value := setPhase_value .idle { h with
    restAlarm := none, fadeAlarm := none, fading := none, marks, mark := none }
  rw [← value] at turn
  rw [dispose, e]
  exact turn

/-- **Every act of which the view is told is made of turns.** -/
theorem act_turns (s : Settled h) (t : Moment) {a : Act P} (viewed : a.viewed) :
    Turns t.now h (h.act t a) := by
  cases a with
  | move mark pos => exact move_turns s t mark pos
  | left => exact move_turns s t none h.pos
  | revoke n => exact revoke_turns s t n
  | ring label =>
    rw [act]
    split
    next set => exact (ring_turn s t label set).turns
    next => exact .none h
  | dispose hideView =>
    have told : hideView = true := viewed
    subst told
    exact (dispose_turn s t).turns

theorem Settled.dispose (s : Settled h) (t : Moment) (hideView : Bool) :
    Settled (h.dispose t hideView).value := by
  have shown := s.turn (dispose_turn s t)
  cases hideView with
  | true => exact shown
  | false =>
    have same : (h.dispose t false).value = (h.dispose t true).value := rfl
    exact same ▸ shown

theorem Settled.act (s : Settled h) (t : Moment) (a : Act P) : Settled (h.act t a).value := by
  by_cases viewed : a.viewed
  · exact s.turns (act_turns s t viewed)
  · cases a with
    | dispose hideView => exact s.dispose t hideView
    | move _ _ | left | revoke _ | ring _ => exact absurd trivial viewed

/-! ## Acts, one after the other -/

/-- Acts at their moments. -/
def perform (acts : List (Moment × Act P)) (h : Hover P) : Logged (HoverEvent P) (Hover P) :=
  acts.foldlM (fun h a => h.act a.1 a.2) h

theorem perform_cons (t : Moment) (a : Act P) (acts : List (Moment × Act P)) (h : Hover P) :
    h.perform ((t, a) :: acts) = h.act t a >>= perform acts := rfl

theorem perform_append (acts more : List (Moment × Act P)) (h : Hover P) :
    h.perform (acts ++ more) = h.perform acts >>= perform more := List.foldlM_append

theorem Settled.perform (s : Settled h) (acts : List (Moment × Act P)) :
    Settled (h.perform acts).value := by
  induction acts generalizing h with
  | nil => exact s
  | cons a acts ih =>
    obtain ⟨t, a⟩ := a
    exact ih (s.act t a)

end Hover
end LiveLint
