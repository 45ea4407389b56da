import LiveLint.Lint.Group

/-! # Groups of lines

Findings are put into their groups one after the other. Each time the lines ascend, the groups
hold what was put in so far, and each is ranked by its most severe finding. -/

namespace LiveLint

theorem Severity.highest?_concat {severities : List Severity} {best : Severity}
    (h : Severity.highest? severities = some best) (s : Severity) :
    Severity.highest? (severities ++ [s]) = some (if best.rank < s.rank then s else best) := by
  cases severities with
  | nil => cases h
  | cons first rest =>
    obtain rfl := Option.some.inj h
    rw [List.cons_append, Severity.highest?, List.foldl_append]
    rfl

/-- Sorting changes nothing but the order. -/
theorem sortForDisplay_perm (xs : List Finding) : (sortForDisplay xs).Perm xs := by
  have bySeverity : sortForDisplay xs = xs.filter (·.severity == .error) ++
      (xs.filter (·.severity == .warning) ++ (xs.filter (·.severity == .info) ++ [])) := rfl
  rw [bySeverity, List.append_nil]
  clear bySeverity
  induction xs with
  | nil => exact .refl []
  | cons a rest ih =>
    simp only [List.filter_cons]
    cases a.severity with
    | error => exact ih.cons a
    | warning => exact List.perm_middle.trans (ih.cons a)
    | info =>
      rw [← List.append_assoc] at ih ⊢
      exact List.perm_middle.trans (ih.cons a)

theorem mem_sortForDisplay {a : Finding} {xs : List Finding} : a ∈ sortForDisplay xs ↔ a ∈ xs :=
  (sortForDisplay_perm xs).mem_iff

@[simp] theorem allFindings_nil : allFindings [] = [] := rfl

@[simp] theorem allFindings_cons (g : LineGroup) (rest : List LineGroup) :
    allFindings (g :: rest) = g.findings ++ allFindings rest := List.flatMap_cons

/-- Every line comes before those that follow. -/
def Ascending (groups : List LineGroup) : Prop := groups.Pairwise (·.line < ·.line)

namespace LineGroup

attribute [local simp] insert

@[simp] theorem single_line (a : Finding) : (single a).line = a.line := rfl

@[simp] theorem extend_line (a : Finding) (g : LineGroup) : (g.extend a).line = g.line := rfl

theorem mem_lines_insert {a : Finding} {groups : List LineGroup} {line : Int} :
    line ∈ (insert a groups).map (·.line) ↔ line = a.line ∨ line ∈ groups.map (·.line) := by
  induction groups with
  | nil => simp
  | cons g rest ih =>
    unfold insert
    split
    next same => simp [same]
    next =>
      split
      · simp
      · rw [List.map_cons, List.mem_cons, ih, List.map_cons, List.mem_cons]
        exact or_left_comm

theorem allFindings_insert (a : Finding) (groups : List LineGroup) :
    (allFindings (insert a groups)).Perm (a :: allFindings groups) := by
  induction groups with
  | nil => exact .refl [a]
  | cons g rest ih =>
    unfold insert
    split
    · rw [allFindings_cons, allFindings_cons, extend, List.append_assoc]
      exact List.perm_middle
    split
    · exact .refl _
    · rw [allFindings_cons, allFindings_cons]
      exact (ih.append_left g.findings).trans List.perm_middle

theorem insert_ascending (a : Finding) {groups : List LineGroup} (h : Ascending groups) :
    Ascending (insert a groups) := by
  induction groups with
  | nil => exact List.pairwise_singleton _ _
  | cons g rest ih =>
    obtain ⟨first, others⟩ := List.pairwise_cons.mp h
    unfold insert
    split
    next same => exact List.pairwise_cons.mpr ⟨first, others⟩
    next other =>
      split
      next before =>
        refine List.pairwise_cons.mpr ⟨fun k hk => ?_, h⟩
        rcases List.mem_cons.mp hk with rfl | hk
        · exact before
        · exact Int.lt_trans before (first k hk)
      next notBefore =>
        refine List.pairwise_cons.mpr ⟨fun k hk => ?_, ih others⟩
        rcases mem_lines_insert.mp (List.mem_map_of_mem hk) with same | old
        · omega
        · obtain ⟨k', hk', same⟩ := List.mem_map.mp old
          exact same ▸ first k' hk'

/-- A group after one more finding is a group from before on another line, or that of the
finding's line with it at the end, or the finding alone on a new line. -/
theorem of_mem_insert {a : Finding} {groups : List LineGroup} (h : Ascending groups)
    {g : LineGroup} (hg : g ∈ insert a groups) :
    (g ∈ groups ∧ g.line ≠ a.line) ∨
    (∃ old ∈ groups, old.line = a.line ∧ g = old.extend a) ∨
    (a.line ∉ groups.map (·.line) ∧ g = single a) := by
  induction groups with
  | nil => exact .inr (.inr ⟨List.not_mem_nil, List.mem_singleton.mp hg⟩)
  | cons k rest ih =>
    obtain ⟨first, others⟩ := List.pairwise_cons.mp h
    unfold insert at hg
    split at hg
    next same =>
      rcases List.mem_cons.mp hg with rfl | hg
      · exact .inr (.inl ⟨k, List.mem_cons_self, same, rfl⟩)
      · have := first g hg
        exact .inl ⟨List.mem_cons_of_mem k hg, by omega⟩
    next other =>
      split at hg
      next before =>
        rcases List.mem_cons.mp hg with rfl | hg
        · refine .inr (.inr ⟨fun found => ?_, rfl⟩)
          obtain ⟨k', hk', same⟩ := List.mem_map.mp found
          rcases List.mem_cons.mp hk' with rfl | hk'
          · exact other same
          · have := first k' hk'
            omega
        · refine .inl ⟨hg, ?_⟩
          rcases List.mem_cons.mp hg with rfl | hg
          · exact other
          · have := first g hg
            omega
      next notBefore =>
        rcases List.mem_cons.mp hg with rfl | hg
        · exact .inl ⟨List.mem_cons_self, other⟩
        · obtain ⟨kept, elsewhere⟩ | ⟨old, ho, same, e⟩ | ⟨new, e⟩ := ih others hg
          · exact .inl ⟨List.mem_cons_of_mem k kept, elsewhere⟩
          · exact .inr (.inl ⟨old, List.mem_cons_of_mem k ho, same, e⟩)
          · refine .inr (.inr ⟨fun found => ?_, e⟩)
            rcases List.mem_cons.mp found with same | found
            · exact other same.symm
            · exact new found

end LineGroup

/-- What the groups of findings are, when the findings were put in one after the other. -/
structure Grouped (xs : List Finding) (groups : List LineGroup) : Prop where
  ascending : Ascending groups
  lines : ∀ line, line ∈ groups.map (·.line) ↔ line ∈ xs.map (·.line)
  findings : ∀ g ∈ groups, g.findings = xs.filter (·.line == g.line)
  highest : ∀ g ∈ groups, Severity.highest? (g.findings.map (·.severity)) = some g.highest

namespace Grouped

theorem nil : Grouped [] [] where
  ascending := List.Pairwise.nil
  lines _ := Iff.rfl
  findings _ h := absurd h List.not_mem_nil
  highest _ h := absurd h List.not_mem_nil

theorem insert {xs : List Finding} {groups : List LineGroup} (h : Grouped xs groups)
    (a : Finding) : Grouped (xs ++ [a]) (LineGroup.insert a groups) where
  ascending := LineGroup.insert_ascending a h.ascending
  lines line := by
    rw [LineGroup.mem_lines_insert, h.lines, List.map_append, List.mem_append, or_comm]
    simp
  findings g hg := by
    rw [List.filter_append]
    obtain ⟨old, elsewhere⟩ | ⟨old, ho, same, rfl⟩ | ⟨new, rfl⟩ :=
      LineGroup.of_mem_insert h.ascending hg
    · simp [h.findings g old, elsewhere.symm]
    · simp [LineGroup.extend, h.findings old ho, same]
    · have none_there : xs.filter (·.line == a.line) = [] := by
        refine List.filter_eq_nil_iff.mpr fun b hb there => new ((h.lines _).mpr ?_)
        exact List.mem_map.mpr ⟨b, hb, eq_of_beq there⟩
      simp [LineGroup.single, none_there]
  highest g hg := by
    obtain ⟨old, -⟩ | ⟨old, ho, -, rfl⟩ | ⟨-, rfl⟩ := LineGroup.of_mem_insert h.ascending hg
    · exact h.highest g old
    · rw [LineGroup.extend, List.map_append]
      exact Severity.highest?_concat (h.highest old ho) a.severity
    · rfl

theorem foldl {xs : List Finding} {groups : List LineGroup} (h : Grouped xs groups)
    (more : List Finding) :
    Grouped (xs ++ more) (more.foldl (fun groups a => LineGroup.insert a groups) groups) := by
  induction more generalizing xs groups with
  | nil => rwa [List.append_nil]
  | cons a more ih => simpa using ih (h.insert a)

/-- No group is empty. -/
theorem findings_ne_nil {xs : List Finding} {groups : List LineGroup} (h : Grouped xs groups)
    {g : LineGroup} (hg : g ∈ groups) : g.findings ≠ [] := by
  intro empty
  have := h.highest g hg
  rw [empty] at this
  cases this

/-- The findings of a group are on its line. -/
theorem line_eq {xs : List Finding} {groups : List LineGroup} (h : Grouped xs groups)
    {g : LineGroup} (hg : g ∈ groups) {a : Finding} (ha : a ∈ g.findings) : a.line = g.line := by
  rw [h.findings g hg] at ha
  exact eq_of_beq (List.mem_filter.mp ha).2

/-- Of all findings of the groups, those on the line of a group are its own. -/
theorem filter_line {xs : List Finding} {groups : List LineGroup} (h : Grouped xs groups)
    {g : LineGroup} (hg : g ∈ groups) :
    (allFindings groups).filter (·.line == g.line) = g.findings := by
  have own : ∀ k ∈ groups, ∀ a ∈ k.findings, a.line = k.line := fun k hk a ha => h.line_eq hk ha
  have ascending := h.ascending
  clear h
  induction groups with
  | nil => cases hg
  | cons k rest ih =>
    obtain ⟨first, others⟩ := List.pairwise_cons.mp ascending
    have own_rest := fun k' hk' => own k' (List.mem_cons_of_mem k hk')
    rw [allFindings_cons, List.filter_append]
    rcases List.mem_cons.mp hg with rfl | hg
    · have mine : g.findings.filter (·.line == g.line) = g.findings :=
        List.filter_eq_self.mpr fun a ha => beq_iff_eq.mpr (own g List.mem_cons_self a ha)
      have not_theirs : (allFindings rest).filter (·.line == g.line) = [] := by
        refine List.filter_eq_nil_iff.mpr fun a ha there => ?_
        obtain ⟨k', hk', ha'⟩ := List.mem_flatMap.mp ha
        have later := first k' hk'
        rw [← own_rest k' hk' a ha', eq_of_beq there] at later
        exact Int.lt_irrefl _ later
      rw [mine, not_theirs, List.append_nil]
    · have not_first : k.findings.filter (·.line == g.line) = [] := by
        refine List.filter_eq_nil_iff.mpr fun a ha there => ?_
        have later := first g hg
        rw [← own k List.mem_cons_self a ha, eq_of_beq there] at later
        exact Int.lt_irrefl _ later
      rw [not_first, List.nil_append]
      exact ih hg own_rest others

end Grouped

theorem group_grouped (xs : List Finding) : Grouped (sortForDisplay xs) (group xs) :=
  Grouped.nil.foldl (sortForDisplay xs)

/-- All findings are in the groups, each as often as it was found. -/
theorem allFindings_group (xs : List Finding) : (allFindings (group xs)).Perm xs := by
  have put (more : List Finding) (groups : List LineGroup) :
      (allFindings (more.foldl (fun groups a => LineGroup.insert a groups) groups)).Perm
        (allFindings groups ++ more) := by
    induction more generalizing groups with
    | nil => rw [List.append_nil]; exact .refl _
    | cons a more ih =>
      exact (ih (LineGroup.insert a groups)).trans
        (((LineGroup.allFindings_insert a groups).append_right more).trans List.perm_middle.symm)
  exact (put (sortForDisplay xs) []).trans (sortForDisplay_perm xs)

/-- The groups start on lines of the findings. -/
theorem group_line {xs : List Finding} {g : LineGroup} (hg : g ∈ group xs) :
    ∃ a ∈ xs, a.line = g.line := by
  obtain ⟨a, ha, same⟩ := List.mem_map.mp (((group_grouped xs).lines g.line).mp
    (List.mem_map_of_mem hg))
  exact ⟨a, mem_sortForDisplay.mp ha, same⟩

end LiveLint
