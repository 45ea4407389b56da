import LiveLint.Tooltip.Hover

/-! # The marks under a tooltip

A tooltip listens to marks and does nothing else to them. Apart from who listens, the table of
marks changes only when a mark is made and when one is revoked. -/

namespace LiveLint

/-- What a change does not concern is the same after it. -/
theorem map_modify_of_eq {α β : Type} {f : α → β} {g : α → α} (h : ∀ a, f (g a) = f a) (l : List α)
    (n : Nat) : (l.modify n g).map f = l.map f := by
  induction l generalizing n with
  | nil => cases n <;> rfl
  | cons a l ih =>
    cases n with
    | zero => simp [h]
    | succ n => simp [ih]

namespace Handle

variable {L : Type}

theorem add_alive (l : L) (h : Handle L) : (h.add l).1.alive = h.alive := by
  unfold add
  split <;> rfl

theorem remove_alive [BEq L] (l : L) (h : Handle L) : (h.remove l).alive = h.alive := rfl

end Handle

namespace Mark

variable {L : Type}

/-- A mark apart from who listens to it. -/
def bare (m : Mark L) : Mark L := { m with handle := ⟨m.alive, []⟩ }

/-- A mark once it is revoked. -/
def revoked (m : Mark L) : Mark L := { m with handle := ⟨false, []⟩ }

/-- A mark that was revoked before stays as it is when it is revoked. -/
theorem revoke_bare (m : Mark L) :
    bare { m with handle := m.handle.revoke.1 } = m.bare.revoked := by
  unfold Handle.revoke bare revoked alive
  split
  · rfl
  next off => rw [Bool.not_eq_true] at off; simp [off]

@[simp] theorem bare_finding (m : Mark L) : m.bare.finding = m.finding := rfl

@[simp] theorem bare_span (m : Mark L) : m.bare.span = m.span := rfl

@[simp] theorem bare_alive (m : Mark L) : m.bare.alive = m.alive := rfl

@[simp] theorem revoked_markup (m : Mark L) : m.revoked.markup = m.markup := rfl

@[simp] theorem revoked_finding (m : Mark L) : m.revoked.finding = m.finding := rfl

@[simp] theorem ofFinding_finding (lookup : Option ExampleLookup) (a : Finding) :
    (ofFinding lookup a : Mark L).finding = a := rfl

end Mark

namespace MarkTable

variable {L : Type}

/-- The table apart from who listens to its marks. -/
def bare (marks : MarkTable L) : List (Mark L) := marks.map Mark.bare

theorem bare_update {marks : MarkTable L} {n : Nat} {f : Handle L → Handle L}
    (keeps : ∀ h, (f h).alive = h.alive) : (marks.update n f).bare = marks.bare :=
  map_modify_of_eq (fun m => by simp [Mark.bare, Mark.alive, keeps]) marks n

theorem bare_set {marks : MarkTable L} {n : Nat} {m m' : Mark L} {f : Mark L → Mark L}
    (h : marks[n]? = some m) (e : m'.bare = f m.bare) :
    MarkTable.bare (marks.set n m') = marks.bare.modify n f := by
  refine List.ext_getElem? fun i => ?_
  rw [bare, bare, List.getElem?_modify, List.getElem?_map, List.getElem?_map, List.getElem?_set]
  by_cases same : n = i
  · subst same
    rw [if_pos rfl, if_pos (List.getElem?_eq_some_iff.mp h).1, h]
    simp [e]
  · simp [same]

end MarkTable

namespace Hover

variable {P : Type}

@[simp] theorem setPhase_marks (p : HoverPhase) (h : Hover P) :
    (h.setPhase p).value.marks = h.marks := by
  unfold setPhase
  split <;> rfl

@[simp] theorem setMark_marks (mark : Option Nat) (h : Hover P) :
    (h.setMark mark).marks.bare = h.marks.bare := by
  unfold setMark
  split
  · rfl
  · cases h.mark with
    | none =>
      cases mark with
      | none => rfl
      | some n => exact MarkTable.bare_update (Handle.add_alive Watcher.hover)
    | some k =>
      have unwatched : (h.marks.update k (·.remove Watcher.hover)).bare = h.marks.bare :=
        MarkTable.bare_update (Handle.remove_alive Watcher.hover)
      cases mark with
      | none => exact unwatched
      | some n => exact (MarkTable.bare_update (Handle.add_alive Watcher.hover)).trans unwatched

@[simp] theorem reveal_marks (t : Moment) (h : Hover P) : (h.reveal t).value.marks = h.marks := by
  unfold reveal
  split
  · rfl
  · exact setPhase_marks _ _

@[simp] theorem leave_marks (t : Moment) (h : Hover P) :
    (h.leave t).value.marks.bare = h.marks.bare := by
  simp [leave]

@[simp] theorem enter_marks (t : Moment) (n : Nat) (h : Hover P) :
    (h.enter t n).value.marks.bare = h.marks.bare := by
  unfold enter
  split
  · simp
  · rw [Logged.bind_value]
    simp

theorem move_marks (t : Moment) (mark : Option Nat) (pos : P) (h : Hover P) :
    (h.move t mark pos).value.marks.bare = h.marks.bare := by
  unfold move
  dsimp only
  split
  · split
    · rfl
    · cases mark.filter h.marks.isAlive <;> simp
  · split
    · rfl
    · cases mark.filter h.marks.isAlive <;> simp
  · cases mark.filter h.marks.isAlive <;> simp

theorem dispose_marks (t : Moment) (hideView : Bool) (h : Hover P) :
    (h.dispose t hideView).value.marks.bare = h.marks.bare := by
  cases hideView <;> simp [dispose]

theorem markRevoked_marks (t : Moment) (h : Hover P) :
    (h.markRevoked t).value.marks = h.marks := by
  unfold markRevoked
  dsimp only
  split <;> simp

theorem ring_marks (t : Moment) (label : HoverAlarm) (h : Hover P) :
    (h.ring t label).value.marks.bare = h.marks.bare := by
  cases label with
  | fade => rfl
  | rest =>
    unfold ring rested
    dsimp only
    split
    · split <;> simp
    · rfl

/-- Those who are called when a mark is revoked leave the table as it is. -/
theorem called_marks (t : Moment) (n : Nat) (called : List Watcher) (h : Hover P) :
    (called.foldlM (fun h _ => if h.mark = some n then h.markRevoked t else pure h) h :
      Logged (HoverEvent P) (Hover P)).value.marks = h.marks := by
  induction called generalizing h with
  | nil => rfl
  | cons w called ih =>
    rw [List.foldlM_cons, Logged.bind_value, ih]
    split
    · exact markRevoked_marks t h
    · rfl

/-- Of the marks, only the one that is revoked changes. -/
theorem revoke_marks (t : Moment) (n : Nat) (h : Hover P) :
    (h.revoke t n).value.marks.bare = h.marks.bare.modify n Mark.revoked := by
  unfold revoke
  split
  next absent =>
    refine (List.modify_eq_self ?_).symm
    rw [MarkTable.bare, List.length_map]
    exact List.getElem?_eq_none_iff.mp absent
  next m found =>
    dsimp only
    rw [called_marks]
    exact MarkTable.bare_set found m.revoke_bare

end Hover
end LiveLint
