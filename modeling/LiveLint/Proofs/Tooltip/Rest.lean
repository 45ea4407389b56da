import LiveLint.Tooltip.Stage

/-! # The tooltip at rest

A tooltip at rest is not shown, has no mark and waits for no alarm. It is put to rest when it
is disposed of. After that nothing but a pointer on a mark that is alive wakes it: it does not
care about marks that are revoked, and it is not moved by a pointer on anything else. -/

namespace LiveLint

def HoverEvent.isShow {P : Type} : HoverEvent P → Bool
  | .show _ _ _ => true
  | _ => false

namespace Hover

variable {P : Type}

/-- Nothing is shown, tracked or fading, and no alarm is set. -/
structure AtRest (h : Hover P) : Prop where
  phase : h.phase = .idle
  mark : h.mark = none
  fading : h.fading = none
  restAlarm : h.restAlarm = none
  fadeAlarm : h.fadeAlarm = none

theorem setPhase_value (p : HoverPhase) (h : Hover P) :
    (h.setPhase p).value = { h with phase := p } := by
  unfold setPhase
  split
  next same => rw [same]; rfl
  next => rfl

theorem setPhase_events {p : HoverPhase} {h : Hover P} :
    ∀ e ∈ (h.setPhase p).events, e.isShow = false := by
  unfold setPhase
  split
  · exact fun _ he => absurd he List.not_mem_nil
  · intro e he
    obtain rfl := List.mem_singleton.mp he
    rfl

/-- Only who listens to marks changes when the tooltip leaves its mark. -/
theorem setMark_none (h : Hover P) : ∃ marks, h.setMark none = { h with marks, mark := none } := by
  unfold setMark
  split
  next same => exact ⟨h.marks, by rw [same]⟩
  next => exact ⟨_, rfl⟩

/-! ## Going to rest -/

theorem dispose_atRest (t : Moment) (hideView : Bool) (h : Hover P) :
    (h.dispose t hideView).value.AtRest := by
  obtain ⟨marks, left⟩ :=
    setMark_none { h with restAlarm := none, fadeAlarm := none, fading := none }
  have value : (h.dispose t hideView).value = { h with
      restAlarm := none, fadeAlarm := none, fading := none, marks, mark := none, phase := .idle } := by
    unfold dispose
    rw [left]
    cases hideView <;> exact setPhase_value _ _
  rw [value]
  exact ⟨rfl, rfl, rfl, rfl, rfl⟩

theorem dispose_events {t : Moment} {hideView : Bool} {h : Hover P} :
    ∀ e ∈ (h.dispose t hideView).events, e.isShow = false := by
  intro e he
  cases hideView with
  | false => exact setPhase_events e he
  | true =>
    rcases List.mem_cons.mp he with rfl | he
    · rfl
    · exact setPhase_events e he

/-! ## Staying at rest -/

theorem revoke_atRest {h : Hover P} (r : h.AtRest) (t : Moment) (n : Nat) :
    (h.revoke t n).value.AtRest := by
  -- nobody who is called has the mark of the tooltip
  have uncalled : ∀ (called : List Watcher) (h : Hover P), h.AtRest →
      (called.foldlM (fun h _ => if h.mark = some n then h.markRevoked t else pure h) h :
        Logged (HoverEvent P) (Hover P)).value.AtRest := by
    intro called
    induction called with
    | nil => exact fun _ r => r
    | cons _ called ih =>
      intro h r
      rw [List.foldlM_cons, if_neg (by simp [r.mark])]
      exact ih h r
  unfold revoke
  split
  · exact r
  · exact uncalled _ _ ⟨r.phase, r.mark, r.fading, r.restAlarm, r.fadeAlarm⟩

/-- A pointer that is on no living mark does not wake the tooltip. -/
theorem move_atRest {h : Hover P} (r : h.AtRest) {mark : Option Nat}
    (dead : mark.filter h.marks.isAlive = none) (t : Moment) (pos : P) :
    h.move t mark pos = pure { h with pos } := by
  simp only [move, dead, r.phase]

end Hover

namespace Stage

variable {P : Type}

theorem perform_atRest {s : Stage P} (r : s.hover.AtRest) (t : Moment) (call : SurfaceCall) :
    (s.perform t call).value.hover.AtRest := by
  cases call with
  | add number a => exact ⟨r.phase, r.mark, r.fading, r.restAlarm, r.fadeAlarm⟩
  | remove number => exact Hover.revoke_atRest r t number
  | setGutter _ _ _ | clearGutter => exact r

theorem performAll_atRest {s : Stage P} (r : s.hover.AtRest) (t : Moment)
    (calls : List SurfaceCall) : (s.performAll t calls).value.hover.AtRest := by
  induction calls generalizing s with
  | nil => exact r
  | cons call calls ih =>
    rw [performAll, List.foldlM_cons, Logged.bind_value]
    exact ih (perform_atRest r t call)

theorem clear_atRest {s : Stage P} (r : s.hover.AtRest) (t : Moment) :
    (s.clear t).value.hover.AtRest := by
  let cleared := { s with renderer := s.renderer.clear.2 }
  have still : cleared.hover.AtRest := r
  exact performAll_atRest still t s.renderer.clear.1

end Stage
end LiveLint
