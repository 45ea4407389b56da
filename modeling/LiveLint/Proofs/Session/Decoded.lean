import LiveLint.Proofs.Lint.NormalForm
import LiveLint.Proofs.Session.Agreement

/-! # Decoded findings are shown as they are

A session normalizes findings before it shows them. Those that were decoded are normal, so
what the session lists, tells and marks is what the answer held, and each entry of the answer
has its own part in it. -/

namespace LiveLint

theorem Completion.toShow?_ofOutcome {xs : List Finding} (normal : ∀ a ∈ xs, a.IsNormal) :
    (ofOutcome (.success xs)).toShow? = some xs := by
  have members : (xs.map Item.finding).filterMap (·.finding?) = xs := by
    rw [List.filterMap_map]
    exact List.filterMap_some
  have kept : xs.map (·.normalize) = xs := by
    rw [List.map_congr_left fun a ha => (normal a ha).normalize_eq, List.map_id']
  rw [ofOutcome, toShow?, members, kept]

namespace Session

variable {P : Type}

/-- The result that is taken next is this outcome, and it is one to be shown: the session is
enabled, and the request was its newest. -/
structure Arrives (s : Session P) (o : LiveLint.Outcome) : Prop where
  enabled : s.enabled = true
  next : ∃ q rest, s.requests.queue = q :: rest ∧ q.generation = s.requests.generation ∧
    q.completion = .ofOutcome o

section

variable {s : Session P} {xs : List Finding}

theorem Arrives.arriving (h : s.Arrives (.success xs)) (normal : ∀ a ∈ xs, a.IsNormal) :
    s.arriving? = some xs := by
  obtain ⟨q, rest, queue, newest, result⟩ := h.next
  rw [arriving?, queue]
  show (if s.enabled && q.generation == s.requests.generation then _ else none) = _
  rw [h.enabled, newest, beq_self_eq_true, result, Completion.toShow?_ofOutcome normal]
  rfl

/-- The session shows the findings that arrive, and shows nothing else. -/
theorem take_of_arriving (h : s.arriving? = some xs) : ∃ requests,
    s.take = { s with requests := requests }.display xs := by
  obtain ⟨requests, ⟨findings, arrives, e⟩ | ⟨nothing, -⟩⟩ := s.take_cases
  · rw [h] at arrives
    obtain rfl := Option.some.inj arrives
    exact ⟨requests, e⟩
  · rw [h] at nothing
    cases nothing

theorem take_arriving_findings (h : s.arriving? = some xs) : s.take.value.findings = xs := by
  rw [take_findings, h]
  rfl

theorem take_host (s : Session P) : s.take.value.host = s.host := by
  obtain ⟨requests, findings, stage, e⟩ := s.take_value
  rw [e]

theorem take_arriving_told (h : s.arriving? = some xs) :
    s.take.events.getLast? = some (.findings xs) := by
  obtain ⟨requests, e⟩ := take_of_arriving h
  obtain ⟨drawn, told⟩ := display_events xs { s with requests := requests }
  rw [e, told]
  simp

end

/-- The marks are one for each finding. -/
theorem Agreement.marks_perm {gutter : Bool} {log : List (Event P)} {editor : Editor}
    {s : Session P} (h : Agreement gutter log editor s) :
    (s.liveMarks.map (·.finding)).Perm s.findings := by
  rw [h.findings]
  exact allFindings_group s.findings

/-- The editor shows each finding at its span, in its severity. -/
theorem Agreement.editor_perm {gutter : Bool} {log : List (Event P)} {editor : Editor}
    {s : Session P} (h : Agreement gutter log editor s) :
    (editor.marks.map fun m => (m.span, m.severity)).Perm
      (s.findings.map fun a => (some a.range.toSpan, a.severity.name)) := by
  have drawn : (editor.marks.map fun m => (m.span, m.severity)) =
      (s.liveMarks.map (·.finding)).map fun a => (some a.range.toSpan, a.severity.name) := by
    rw [h.shown, List.map_map]
    exact List.map_congr_left fun m hm => by rw [h.spans m hm]; rfl
  rw [drawn]
  exact h.marks_perm.map _

/-- **Findings are shown as they were decoded.** They are in normal form, so that normalizing
them changes nothing. Whenever they arrive in a session, they become its findings and are told
as such, and as long as its editor is there its marks and those of the editor are theirs, one
for each. The findings of a longer list are those of its parts in their order, and an entry
that is no object or has no position object makes no difference. -/
theorem shown_as_decoded (config : LintConfig) (lookup : Option ExampleLookup)
    (view : TooltipView) (source : Nat → Option Completion) (text : String) (pos : P) (page : Page)
    (caret : Caret) (visual : VisualConfig) :
    (∀ payload xs, Response.decode payload = .ok (.success xs) →
      (∀ a ∈ xs, a.IsNormal ∧ a.normalize = a) ∧
      ∀ history,
        let before := opened config lookup {} view source text pos >>= perform history
        let after := before.value.move .take
        let editor := Editor.performAll (calls (before.events ++ after.events))
          { page, caret, visual }
        before.value.Arrives (.success xs) →
          after.value.findings = xs ∧ after.events.getLast? = some (.findings xs) ∧
          (before.value.host.alive = true →
            (after.value.liveMarks.map (·.finding)).Perm xs ∧
            (editor.marks.map fun m => (m.span, m.severity)).Perm
              (xs.map fun a => (some a.range.toSpan, a.severity.name)))) ∧
    (∀ items more o o', Response.decode (Response.listing items) = .ok o →
      Response.decode (Response.listing more) = .ok o' →
      ∃ xs ys, o = .success xs ∧ o' = .success ys ∧
        Response.decode (Response.listing (items ++ more)) = .ok (.success (xs ++ ys))) ∧
    ∀ raw : Value, raw.isDict = false ∨ (raw.field "position").isDict = false → ∀ items more,
      Response.decode (Response.listing (items ++ raw :: more)) =
        Response.decode (Response.listing (items ++ more)) := by
  refine ⟨fun payload xs decoded => ?_, fun items more o o' hi hm => ?_, fun raw skipped => ?_⟩
  · have normal := Response.decode_isNormal decoded
    refine ⟨fun a ha => ⟨normal a ha, (normal a ha).normalize_eq⟩, ?_⟩
    intro history before after editor arrives
    have arriving := arrives.arriving normal
    refine ⟨take_arriving_findings arriving, take_arriving_told arriving, fun alive => ?_⟩
    have start := opened_viewed config lookup view source text pos page caret visual
    have viewed := perform_invariant
      (I := Viewed config.gutter { page, caret, visual }) (fun _ _ m h => h.move m) history _ start
    have agreement := (viewed.move .take).agreement
      ((congrArg Host.alive (take_host _)).trans alive)
    have findings : after.value.findings = xs := take_arriving_findings arriving
    exact ⟨findings ▸ agreement.marks_perm, findings ▸ agreement.editor_perm⟩
  · obtain ⟨xs, rfl⟩ := Response.listing_success hi
    obtain ⟨ys, rfl⟩ := Response.listing_success hm
    exact ⟨xs, ys, rfl, rfl, Response.decode_listing_append hi hm⟩
  · refine Response.decode_listing_skip ?_
    rcases skipped with noObject | noPosition
    · exact Response.not_hasPosition_of_not_isDict noObject
    · exact Bool.eq_false_iff.mp noPosition

/-- An entry with a line is shown at it, and what stands beside it is not. -/
theorem shown_as_decoded_beside_null :
    let position := Value.dict [("start", .dict [("line", .int 2)])]
    let entry := Value.dict [("position", position), ("message", .text " Bad word. ")]
    let found : Finding := ⟨.point ⟨2, 1⟩, .warning, "Bad word.", "", "", ""⟩
    let before := opened {} none {} .plain (fun _ => none) "abc" () >>= perform
      [.step .lintNow rfl, .step (.complete 0 (.ofOutcome (.success [found]))) rfl]
    let after := before.value.move .take
    (Response.decode (Response.listing [entry, .null]) = .ok (.success [found]) ∧
      before.value.Arrives (.success [found]) ∧ before.value.host.alive = true) ∧
    after.value.findings = [found] ∧ (after.value.liveMarks.map (·.finding)).Perm [found] := by
  intro position entry found before after
  have finite : ∀ raw ∈ [entry, .null], ¬ Response.EndlessEntry raw := by
    intro raw hr endless
    have fault := Response.decodeFinding_endless endless
    rcases List.mem_cons.mp hr with rfl | hr
    · cases fault
    · obtain rfl := List.mem_singleton.mp hr
      cases fault
  have decoded : Response.decode (Response.listing [entry, .null]) = .ok (.success [found]) :=
    Response.decode_listing_iff.mpr ⟨finite, by decide +kernel⟩
  have arrives : before.value.Arrives (.success [found]) := ⟨rfl, _, _, rfl, rfl, rfl⟩
  obtain ⟨-, shown⟩ := (shown_as_decoded {} none .plain (fun _ => none) "abc" () {} ⟨0, 0⟩ {}).1
    _ _ decoded
  obtain ⟨findings, -, marks⟩ := shown _ arrives
  exact ⟨⟨decoded, arrives, rfl⟩, findings, (marks rfl).1⟩

end Session
end LiveLint
