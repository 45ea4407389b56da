import LiveLint.Proofs.Panel.Rows
import LiveLint.Proofs.Session.Agreement
import LiveLint.Proofs.Session.Summary

/-! # The panel beside a session

A session tells of its findings whenever it replaces them, and a panel that is set to what it
hears shows the rows of the last findings told of. The marks of the session are made apart from
that, out of the same findings, so as long as the session has not ended the rows of the panel
are the findings of its marks. -/

namespace LiveLint.Session

variable {P : Type} {log : List (Event P)}

/-- The lists that a panel is set to are those that events tell of, in the same order. Rows may
be selected and activated at any time. -/
def Heard (log : List (Event P)) (uses : List Panel.Step) : Prop :=
  uses.filterMap Panel.Step.items? = (log.filterMap Event.findings?).map (·.map Item.finding)

/-- The rows of a panel are those of the findings that it heard of last. -/
theorem Heard.rows {uses : List Panel.Step} (h : Heard log uses) :
    (Panel.run uses {}).value.rows =
      allFindings (group ((last? Event.findings? log).getD [])) := by
  rw [Panel.run_rows, h, List.getLast?_map, last?]
  cases (log.filterMap Event.findings?).getLast? with
  | none => rfl
  | some xs => simp [Panel.rowsOf, List.filterMap_map, Item.finding?]

/-! ## What is told and what is marked -/

/-- Until it ends, a session has told of its findings, and its marks are theirs. -/
structure Marked (log : List (Event P)) (s : Session P) : Prop where
  told : s.disposed = false → (last? Event.findings? log).getD [] = s.findings
  shown : s.disposed = false → ∃ calls editor, s.stage.Shows calls editor (group s.findings)

/-- A move that tells of nothing leaves the findings as they are, unless it ends the session. -/
theorem told_move {s : Session P}
    (told : s.disposed = false → (last? Event.findings? log).getD [] = s.findings) (m : Move P)
    (live : (s.move m).value.disposed = false) :
    (last? Event.findings? (log ++ (s.move m).events)).getD [] = (s.move m).value.findings := by
  have before : s.disposed = false := by
    by_contra ended
    simp [move_disposed (Bool.not_eq_false _ ▸ ended) m] at live
  -- Events that tell of nothing, and the same findings as before.
  have kept : ∀ {x : Logged (Event P) (Session P)}, Mute x.events →
      x.value.findings = s.findings →
      (last? Event.findings? (log ++ x.events)).getD [] = x.value.findings := by
    intro x mute same
    rw [last?_append fun e he => (mute e he).1, same, told before]
  have outcome := move_outcome m s
  generalize s.move m = x at outcome live
  cases outcome with
  | still same => exact kept mute_nil same.findings
  | @asked t same => exact kept (mute_trigger t) (t.trigger_findings.trans same.findings)
  | hovered same _ => exact kept mute_setHover same.findings
  | @displayed t same on findings =>
    obtain ⟨drawn, e⟩ := t.display_events findings
    have last : last? Event.findings? (log ++ (t.display findings).events) = some findings := by
      rw [e, List.append_cons drawn, ← List.append_assoc]
      exact last?_concat rfl
    rw [last]
    rfl
  | reported same reports =>
    refine kept (fun e he => ?_) same.findings
    obtain ⟨text, rfl⟩ := reports e he
    exact ⟨rfl, rfl⟩
  | switchedOff _ =>
    obtain ⟨cleared, e⟩ := s.switchOff_events
    have off : SwitchedOffSince (log ++ s.switchOff.events) :=
      ⟨log ++ cleared, [], by rw [e, List.append_assoc], mute_nil⟩
    rw [off.findings]
    rfl
  | @ended t _ _ _ => simp [t.takeDown_disposed] at live

theorem Marked.move {s : Session P} (h : Marked log s) (m : Move P) :
    Marked (log ++ (s.move m).events) (s.move m).value where
  told := told_move h.told m
  shown := by
    refine move_shown (I := fun x findings disposed =>
      disposed = false → ∃ calls editor, x.Shows calls editor (group findings))
      ?_ ?_ ?_ ?_ h.shown m
    · intro x findings disposed hover same shown live
      obtain ⟨calls, editor, shows⟩ := shown live
      exact ⟨calls, editor, shows.setHover same⟩
    · intro x findings _
      refine ⟨fun ended => ?_, fun _ ended => ?_⟩ <;> cases ended
    · intro x findings shown t next _
      obtain ⟨calls, editor, shows⟩ := shown rfl
      exact ⟨_, _, shows.render t (group next)⟩
    · intro x findings shown t _
      obtain ⟨calls, editor, shows⟩ := shown rfl
      exact ⟨_, _, shows.clear t⟩

theorem opened_marked (config : LintConfig) (lookup : Option ExampleLookup) (host : Host)
    (view : TooltipView) (source : Nat → Option Completion) (text : String) (pos : P) :
    let s := opened config lookup host view source text pos
    Marked s.events s.value := by
  intro s
  have mute : Mute s.events := mute_opened config lookup host view source text pos
  have silent : last? Event.findings? ([] ++ s.events) = none := last?_append fun e he =>
    (mute e he).1
  rw [show s.value = _ from opened_value ..]
  exact {
    told := fun _ => congrArg (·.getD []) silent
    shown := fun _ => ⟨[], {}, Shows.blank rfl rfl rfl rfl⟩ }

/-- The marks of a session are of its findings, line by line. -/
theorem Marked.liveMarks {s : Session P} (h : Marked log s) (live : s.disposed = false) :
    s.liveMarks.map (·.finding) =
      allFindings (group ((last? Event.findings? log).getD [])) := by
  obtain ⟨calls, editor, shows⟩ := h.shown live
  rw [h.told live, map_of_bare (liveMarks_bare shows) (·.finding) fun _ => rfl]
  exact List.map_id _

/-- **A panel shows the findings of the marks.** A run of a session is a sequence of moves, and
after any moves that have not ended the session, a panel that was set to what the session told
of has the findings of the marks as its rows, in the same order. Whatever was done with a panel,
its table shows its rows; a list is shown as the findings among its members, group by group, and
counted; and whichever row of the table is the current one, activating it tells the line and the
column in its cells, and activating none tells nothing. -/
theorem panel_shows_marks (config : LintConfig) (lookup : Option ExampleLookup) (host : Host)
    (view : TooltipView) (source : Nat → Option Completion) (text : String) (pos : P) :
    let s := opened config lookup host view source text pos
    (∀ steps, s.value.run steps = s.value.perform (s.value.moves steps)) ∧
    (∀ history uses, let r := s >>= perform history
      r.value.disposed = false → Heard r.events uses →
        (Panel.run uses {}).value.rows = r.value.liveMarks.map (·.finding)) ∧
    ∀ uses, let p := (Panel.run uses {}).value
      p.table.rows = p.rows.map Panel.cells ∧
      (∀ row, p.table.current = some row → row < p.rows.length) ∧
      (∀ items, let shown := p.step (.set items)
        shown.value.rows = (group (items.filterMap (·.finding?))).flatMap (·.findings) ∧
        shown.value.table.rows = shown.value.rows.map Panel.cells ∧
        shown.events = [.count shown.value.rows.length]) ∧
      ∀ current, let seen : Panel := { p with table := { p.table with current := current } }
        (seen.table.currentRow? = none → (seen.step .activate).events = []) ∧
        ∀ r, seen.table.currentRow? = some r → ∃ place : Position,
          (seen.step .activate).events = [.activated place] ∧
          r[1]? = some (toString place.line) ∧ r[2]? = some (toString place.column) := by
  intro s
  refine ⟨fun steps => run_eq_perform steps s.value, ?_, ?_⟩
  · intro history uses r live heard
    have start : Marked s.events s.value :=
      opened_marked config lookup host view source text pos
    have after : Marked r.events r.value :=
      perform_invariant (I := Marked) (fun _ _ m h => h.move m) history _ start
    rw [heard.rows, after.liveMarks live]
  · intro uses p
    have shows : p.Shows := Panel.shows_empty.run uses
    refine ⟨shows.rows, Panel.within_empty.run Panel.shows_empty uses, ?_, ?_⟩
    · intro items shown
      exact ⟨rfl, (shows.step (.set items)).rows, rfl⟩
    · intro current seen
      have same : seen.Shows := ⟨shows.headers, shows.rows⟩
      constructor
      · intro none
        exact congrArg Option.toList (same.activate_eq_none none)
      · intro r row
        obtain ⟨place, activated, line, column⟩ := same.activate row
        exact ⟨place, congrArg Option.toList activated, line, column⟩

/-- Two lines are marked, and the second row of the panel is activated. -/
theorem panel_shows_marks_of_result :
    let found (line : Int) : Finding := ⟨⟨⟨line, 1⟩, ⟨line, 4⟩⟩, .error, "bad", "", "", ""⟩
    let s : Logged (Event Unit) (Session Unit) :=
      opened {} none {} .plain (fun _ => none) "abc" ()
    let r := s >>= perform [.step .lintNow rfl,
      .step (.complete 0 (.success [.other .null, .finding (found 2), .finding (found 1)])) rfl,
      .take]
    let uses : List Panel.Step :=
      [.set [.finding (found 2), .finding (found 1)], .select 1, .activate]
    (r.value.disposed = false ∧ Heard r.events uses) ∧
      (Panel.run uses {}).events = [.count 2, .activated ⟨2, 1⟩] ∧
      (Panel.run uses {}).value.rows = r.value.liveMarks.map (·.finding) := by
  intro found s r uses
  have live : r.value.disposed = false := rfl
  have told : r.events.filterMap Event.findings? = [[found 2, found 1]] := by decide +kernel
  have heard : Heard r.events uses := by
    rw [Heard, told]
    rfl
  have shown := (panel_shows_marks {} none {} .plain (fun _ => none) "abc" ()).2.1
    _ uses live heard
  exact ⟨⟨live, heard⟩, by decide +kernel, shown⟩

end LiveLint.Session
