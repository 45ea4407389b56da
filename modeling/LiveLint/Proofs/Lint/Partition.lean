import LiveLint.Proofs.Lint.Group
import Mathlib.Data.List.Basic

/-! # Grouping is a stable partition

Sorting for display ranks findings by severity and keeps the order of equally severe ones, so it can
be done before or after the findings of one line are picked out. The groups are therefore the
sorted findings line by line, and nothing but the findings of each line counts for them: what is
grouped may be ungrouped and grouped again. -/

namespace LiveLint

/-! ## Sorting for display -/

/-- From the most to the least severe. -/
def Ranked (xs : List Finding) : Prop :=
  xs.Pairwise fun a b => b.severity.rank ≤ a.severity.rank

theorem sortForDisplay_ranked (xs : List Finding) : Ranked (sortForDisplay xs) := by
  have severity_eq {s : Severity} {a : Finding} (h : a ∈ xs.filter (·.severity == s)) :
      a.severity = s := eq_of_beq (List.mem_filter.mp h).2
  refine List.pairwise_flatMap.mpr ⟨fun s _ => ?_, ?_⟩
  · refine List.pairwise_of_forall_mem_list fun a ha b hb => ?_
    have same : b.severity = a.severity := (severity_eq hb).trans (severity_eq ha).symm
    exact Nat.le_of_eq (congrArg Severity.rank same)
  · have descending : Severity.all.Pairwise fun s t => t.rank ≤ s.rank := by decide
    refine descending.imp fun {s t} lower a ha b hb => ?_
    rw [severity_eq ha, severity_eq hb]
    exact lower

/-- Sorting is stable: findings of one severity keep their order. -/
theorem filter_severity_sortForDisplay (s : Severity) (xs : List Finding) :
    (sortForDisplay xs).filter (·.severity == s) = xs.filter (·.severity == s) := by
  have own (t : Severity) : (xs.filter (·.severity == t)).filter (·.severity == s) =
      if t = s then xs.filter (·.severity == s) else [] := by
    split
    next same =>
      subst same
      rw [List.filter_filter]
      simp
    next other =>
      refine List.filter_eq_nil_iff.mpr fun a ha there => other ?_
      exact (eq_of_beq (List.mem_filter.mp ha).2).symm.trans (eq_of_beq there)
  rw [sortForDisplay, List.filter_flatMap]
  simp only [own]
  cases s <;> simp [Severity.all]

/-- It makes no difference whether findings are picked out before or after they are sorted. -/
theorem filter_sortForDisplay (p : Finding → Bool) (xs : List Finding) :
    (sortForDisplay xs).filter p = sortForDisplay (xs.filter p) := by
  rw [sortForDisplay, sortForDisplay, List.filter_flatMap]
  refine List.flatMap_congr fun s _ => ?_
  rw [List.filter_filter, List.filter_filter]
  exact List.filter_congr fun a _ => Bool.and_comm _ _

theorem sortForDisplay_sortForDisplay (xs : List Finding) :
    sortForDisplay (sortForDisplay xs) = sortForDisplay xs := by
  show (Severity.all.flatMap fun s => (sortForDisplay xs).filter (·.severity == s)) = _
  exact List.flatMap_congr fun s _ => filter_severity_sortForDisplay s xs

/-! ## The most severe finding -/

/-- The highest severity of findings in the order of display is that of the first. -/
theorem highest?_of_ranked {xs : List Finding} (h : Ranked xs) :
    Severity.highest? (xs.map (·.severity)) = xs.head?.map (·.severity) := by
  cases xs with
  | nil => rfl
  | cons a rest =>
    obtain ⟨lower, -⟩ := List.pairwise_cons.mp h
    have keeps : (rest.map (·.severity)).foldl
        (fun best t => if best.rank < t.rank then t else best) a.severity = a.severity := by
      clear h
      induction rest with
      | nil => rfl
      | cons b rest ih =>
        obtain ⟨first, others⟩ := List.forall_mem_cons.mp lower
        rw [List.map_cons, List.foldl_cons, if_neg (Nat.not_lt.mpr first)]
        exact ih others
    rw [List.map_cons, Severity.highest?, keeps]
    rfl

/-! ## Groups line by line -/

theorem Ascending.nodup {groups : List LineGroup} (h : Ascending groups) : groups.Nodup := by
  refine List.Pairwise.imp (fun {g k} before same => ?_) h
  rw [same] at before
  exact Int.lt_irrefl _ before

namespace Grouped

variable {xs ys : List Finding} {groups others : List LineGroup}

theorem subset (h : Grouped xs groups) (h' : Grouped ys others)
    (same : ∀ line, xs.filter (·.line == line) = ys.filter (·.line == line)) :
    groups ⊆ others := by
  intro g hg
  -- the group is not empty, so there is one on its line among the others
  obtain ⟨a, ha⟩ := List.exists_mem_of_ne_nil _ (h.findings_ne_nil hg)
  have there : a ∈ ys.filter (·.line == g.line) := by
    rw [← same, ← h.findings g hg]
    exact ha
  have line : g.line ∈ ys.map (·.line) := by
    rw [← h.line_eq hg ha]
    exact List.mem_map_of_mem (List.mem_of_mem_filter there)
  obtain ⟨k, hk, sameLine⟩ := List.mem_map.mp ((h'.lines _).mpr line)
  have findings : k.findings = g.findings := by
    rw [h'.findings k hk, h.findings g hg, sameLine, same]
  have highest : k.highest = g.highest := by
    have top := h'.highest k hk
    rw [findings, h.highest g hg] at top
    exact (Option.some.inj top).symm
  have equal : k = g := by
    cases k
    cases g
    simp_all
  exact equal ▸ hk

/-- Groups are known by the findings of each line. -/
theorem ext (h : Grouped xs groups) (h' : Grouped ys others)
    (same : ∀ line, xs.filter (·.line == line) = ys.filter (·.line == line)) :
    groups = others := by
  have distinct := h.ascending.nodup
  have distinct' := h'.ascending.nodup
  have perm : groups.Perm others := (List.perm_ext_iff_of_nodup distinct distinct').mpr fun g =>
    ⟨fun hg => h.subset h' same hg, fun hg => h'.subset h (fun line => (same line).symm) hg⟩
  refine perm.eq_of_pairwise (fun g k _ _ before after => ?_) h.ascending h'.ascending
  exact absurd (Int.lt_trans before after) (Int.lt_irrefl g.line)

end Grouped

/-- The findings of a group are those of its line, sorted for display. -/
theorem group_findings {xs : List Finding} {g : LineGroup} (hg : g ∈ group xs) :
    g.findings = sortForDisplay (xs.filter (·.line == g.line)) := by
  rw [(group_grouped xs).findings g hg, filter_sortForDisplay]

/-- Of all findings in the groups, those of a line are as the line shows them. -/
theorem filter_allFindings_group (xs : List Finding) (line : Int) :
    (allFindings (group xs)).filter (·.line == line) =
      sortForDisplay (xs.filter (·.line == line)) := by
  by_cases there : line ∈ (group xs).map (·.line)
  · obtain ⟨g, hg, rfl⟩ := List.mem_map.mp there
    rw [(group_grouped xs).filter_line hg, group_findings hg]
  · have nothing : xs.filter (·.line == line) = [] := by
      refine List.filter_eq_nil_iff.mpr fun a ha same => there ?_
      rw [(group_grouped xs).lines, ← eq_of_beq same]
      exact List.mem_map_of_mem (mem_sortForDisplay.mpr ha)
    have none_left := (allFindings_group xs).filter (·.line == line)
    rw [nothing] at none_left ⊢
    exact none_left.eq_nil

theorem group_allFindings (xs : List Finding) : group (allFindings (group xs)) = group xs := by
  refine (group_grouped _).ext (group_grouped xs) fun line => ?_
  rw [filter_sortForDisplay, filter_sortForDisplay, filter_allFindings_group,
    sortForDisplay_sortForDisplay]

/-- **Grouping is a stable partition.** The groups ascend by line, and their lines are those of the
findings. A group has just the findings of its line, the most severe first and equally severe ones
in the order in which they were given; its highest severity is the highest of its findings, which
is that of the first one. Grouping what is in the groups gives the same groups. -/
theorem group_stable_partition (xs : List Finding) :
    ((group xs).map (·.line)).Pairwise (· < ·) ∧
    (∀ line, line ∈ (group xs).map (·.line) ↔ ∃ a ∈ xs, a.line = line) ∧
    (∀ g ∈ group xs, g.findings ≠ [] ∧
      g.findings.Perm (xs.filter (·.line == g.line)) ∧
      (g.findings.Pairwise fun a b => b.severity.rank ≤ a.severity.rank) ∧
      (∀ s, g.findings.filter (·.severity == s) =
        (xs.filter (·.line == g.line)).filter (·.severity == s)) ∧
      Severity.highest? (g.findings.map (·.severity)) = some g.highest ∧
      g.findings.head?.map (·.severity) = some g.highest) ∧
    group (allFindings (group xs)) = group xs := by
  have grouped := group_grouped xs
  refine ⟨List.pairwise_map.mpr grouped.ascending, fun line => ?_, fun g hg => ?_,
    group_allFindings xs⟩
  · rw [grouped.lines, List.mem_map]
    exact exists_congr fun a => and_congr_left fun _ => mem_sortForDisplay
  · have findings := group_findings hg
    have ranked : Ranked g.findings := findings ▸ sortForDisplay_ranked _
    have highest := grouped.highest g hg
    refine ⟨grouped.findings_ne_nil hg, ?_, ranked, fun s => ?_, highest, ?_⟩
    · rw [findings]
      exact sortForDisplay_perm _
    · rw [findings]
      exact filter_severity_sortForDisplay s _
    · rw [← highest?_of_ranked ranked]
      exact highest

/-- The last finding of a line comes first where it is the most severe, and the two warnings keep
their order. -/
example :
    let on (line : Int) (severity : Severity) (message : String) : Finding :=
      ⟨.point ⟨line, 1⟩, severity, message, "", "", ""⟩
    (group [on 7 .warning "a", on 2 .info "b", on 7 .warning "c", on 7 .error "d"]).map
        (fun g => (g.line, g.highest, g.findings.map (·.message))) =
      [(2, .info, ["b"]), (7, .error, ["d", "a", "c"])] := by
  decide

end LiveLint
