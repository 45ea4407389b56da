import LiveLint.Mark.Renderer
import LiveLint.Proofs.Json.Number
import LiveLint.Proofs.Lint.Group
import LiveLint.Proofs.Text.Cutting

/-! # The summary tells the counts

The severities are counted over the groups, but neither grouping nor the order of findings matters:
each severity is counted as often as it occurs. The summary is cut into its parts again at the
commas, and a part tells its number by the digits up to the space and its severity by what
follows. So the counts can be read off the summary, except that those without any are not named. -/

namespace LiveLint
open Text

/-! ## Counting -/

namespace Counts

/-- Each severity has one count, and none of them is zero. -/
structure Tallied (c : Counts) : Prop where
  distinct : (c.map (·.1)).Nodup
  positive : ∀ p ∈ c, 0 < p.2

theorem get_cons (s t : Severity) (n : Nat) (c : Counts) :
    get s ((t, n) :: c) = if t = s then n else c.get s := by
  rw [get, List.find?_cons]
  by_cases same : t = s
  · simp [same]
  · have other : (t == s) = false := beq_eq_false_iff_ne.mpr same
    simp only [other, if_neg same, get]

/-- One more of a severity. -/
theorem get_add (s t : Severity) (c : Counts) :
    (c.add t).get s = c.get s + if t = s then 1 else 0 := by
  induction c with
  | nil => rw [add, get_cons, get, List.find?_nil]; simp
  | cons p rest ih =>
    obtain ⟨u, n⟩ := p
    rw [add]
    by_cases here : u = t
    · subst here
      rw [if_pos rfl, get_cons, get_cons]
      split <;> rfl
    · rw [if_neg here, get_cons, get_cons, ih]
      by_cases found : u = s
      · have other : t ≠ s := fun e => here (found.trans e.symm)
        rw [if_pos found, if_pos found, if_neg other, Nat.add_zero]
      · rw [if_neg found, if_neg found]

theorem mem_severities_add {s t : Severity} {c : Counts} :
    s ∈ (c.add t).map (·.1) ↔ s = t ∨ s ∈ c.map (·.1) := by
  induction c with
  | nil => simp [add]
  | cons p rest ih =>
    obtain ⟨u, n⟩ := p
    rw [add]
    by_cases here : u = t
    · simp [here]
    · rw [if_neg here, List.map_cons, List.mem_cons, ih, List.map_cons, List.mem_cons]
      exact or_left_comm

namespace Tallied

theorem nil : Tallied [] := ⟨List.nodup_nil, List.forall_mem_nil _⟩

theorem add {c : Counts} (h : Tallied c) (t : Severity) : Tallied (c.add t) := by
  induction c with
  | nil => exact ⟨List.nodup_singleton t, List.forall_mem_singleton.mpr Nat.one_pos⟩
  | cons p rest ih =>
    obtain ⟨u, n⟩ := p
    obtain ⟨fresh, distinct⟩ := List.nodup_cons.mp h.distinct
    obtain ⟨first, positive⟩ := List.forall_mem_cons.mp h.positive
    rw [Counts.add]
    by_cases here : u = t
    · rw [if_pos here]
      exact ⟨h.distinct, List.forall_mem_cons.mpr ⟨Nat.succ_pos n, positive⟩⟩
    · obtain ⟨later, laterPositive⟩ := ih ⟨distinct, positive⟩
      rw [if_neg here]
      refine ⟨List.nodup_cons.mpr ⟨fun again => ?_, later⟩,
        List.forall_mem_cons.mpr ⟨first, laterPositive⟩⟩
      rcases mem_severities_add.mp again with same | old
      · exact here same
      · exact fresh old

/-- Looking a severity up is finding its entry; what has no entry counts zero. -/
theorem mem_iff {c : Counts} (h : Tallied c) {s : Severity} {n : Nat} :
    (s, n) ∈ c ↔ 0 < n ∧ c.get s = n := by
  induction c with
  | nil =>
    refine iff_of_false List.not_mem_nil fun ⟨positive, found⟩ => ?_
    have zero : 0 = n := found
    omega
  | cons p rest ih =>
    obtain ⟨u, m⟩ := p
    obtain ⟨fresh, distinct⟩ := List.nodup_cons.mp h.distinct
    obtain ⟨first, positive⟩ := List.forall_mem_cons.mp h.positive
    rw [List.mem_cons, ih ⟨distinct, positive⟩, get_cons]
    by_cases here : u = s
    · subst here
      have missing : ¬ (0 < n ∧ Counts.get u rest = n) := fun found =>
        fresh (List.mem_map.mpr ⟨_, (ih ⟨distinct, positive⟩).mpr found, rfl⟩)
      rw [if_pos rfl, or_iff_left missing, Prod.mk.injEq]
      constructor
      · rintro ⟨-, rfl⟩
        exact ⟨first, rfl⟩
      · rintro ⟨-, rfl⟩
        exact ⟨rfl, rfl⟩
    · rw [if_neg here]
      exact or_iff_right fun e => here (Prod.mk.inj e).1.symm

end Tallied

/-- One more finding makes one more in all. -/
theorem sum_add (t : Severity) (c : Counts) :
    ((c.add t).map (·.2)).sum = (c.map (·.2)).sum + 1 := by
  induction c with
  | nil => rfl
  | cons p rest ih =>
    obtain ⟨u, n⟩ := p
    rw [add]
    split
    · simp only [List.map_cons, List.sum_cons]
      omega
    · simp only [List.map_cons, List.sum_cons, ih]
      omega

end Counts

section

variable (groups : List LineGroup)

theorem tallied_countSeverities : (countSeverities groups).Tallied := by
  have tallied (xs : List Finding) {c : Counts} (h : c.Tallied) :
      (xs.foldl (fun c a => c.add a.severity) c).Tallied := by
    induction xs generalizing c with
    | nil => exact h
    | cons a rest ih => exact ih (h.add a.severity)
  exact tallied (allFindings groups) .nil

theorem get_countSeverities (s : Severity) :
    (countSeverities groups).get s = (allFindings groups).countP (·.severity == s) := by
  have counted (xs : List Finding) (c : Counts) :
      (xs.foldl (fun c a => c.add a.severity) c).get s =
        c.get s + xs.countP (·.severity == s) := by
    induction xs generalizing c with
    | nil => rfl
    | cons a rest ih =>
      rw [List.foldl_cons, ih, Counts.get_add, List.countP_cons]
      simp only [beq_iff_eq]
      omega
  exact (counted (allFindings groups) []).trans (Nat.zero_add _)

theorem sum_countSeverities :
    ((countSeverities groups).map (·.2)).sum = (allFindings groups).length := by
  have counted (xs : List Finding) (c : Counts) :
      ((xs.foldl (fun c a => c.add a.severity) c).map (·.2)).sum =
        (c.map (·.2)).sum + xs.length := by
    induction xs generalizing c with
    | nil => rfl
    | cons a rest ih =>
      rw [List.foldl_cons, ih, Counts.sum_add, List.length_cons]
      omega
  exact (counted (allFindings groups) []).trans (Nat.zero_add _)

end

/-- Each severity is counted as often as it occurs. -/
theorem mem_countSeverities_group {xs : List Finding} {s : Severity} {n : Nat} :
    (s, n) ∈ countSeverities (group xs) ↔ 0 < n ∧ xs.countP (·.severity == s) = n := by
  rw [(tallied_countSeverities (group xs)).mem_iff, get_countSeverities,
    (allFindings_group xs).countP_eq]

theorem countSeverities_perm {xs ys : List Finding} (h : ys.Perm xs) :
    (countSeverities (group ys)).Perm (countSeverities (group xs)) := by
  have distinct (zs : List Finding) : (countSeverities (group zs)).Nodup :=
    (tallied_countSeverities (group zs)).distinct.of_map _
  refine (List.perm_ext_iff_of_nodup (distinct ys) (distinct xs)).mpr fun p => ?_
  rw [mem_countSeverities_group, mem_countSeverities_group, h.countP_eq]

/-! ## The parts of a summary -/

/-- What so many problems of a severity are called. -/
def noun (s : Severity) (n : Int) : String :=
  if n = 1 || s = .info then s.name else s.name ++ "s"

/-- A severity with or without a plural is told by the first letter. -/
theorem severity_of_noun {s t : Severity} {m n : Int} (h : noun s m = noun t n) : s = t := by
  have letter (s : Severity) (n : Int) :
      (noun s n).toList.head? = s.name.toList.head? := by
    unfold noun
    split
    · rfl
    · cases s <;> rfl
  have letters : s.name.toList.head? = t.name.toList.head? := by
    rw [← letter s m, h, letter]
  cases s <;> cases t <;> simp_all [Severity.name]

theorem summaryPart_toList {n : Int} (h : 0 < n) (s : Severity) :
    (summaryPart s n).toList = digitsOfNat n.natAbs ++ ' ' :: (noun s n).toList := by
  have positive : decide (n < 0) = false := decide_eq_false (by omega)
  rw [summaryPart, String.toList_append, String.toList_append, Json.toString_int, positive,
    List.append_assoc]
  rfl

theorem not_mem_digitsOfNat {c : Char} (h : isAsciiDigit c = false) (n : Nat) :
    c ∉ digitsOfNat n := fun digit =>
  Bool.false_ne_true (h.symm.trans (isAsciiDigit_of_mem_digitsOfNat digit))

theorem summaryPart_inj {s t : Severity} {m n : Int} (hm : 0 < m) (hn : 0 < n)
    (h : summaryPart s m = summaryPart t n) : s = t ∧ m = n := by
  have chars := congrArg String.toList h
  rw [summaryPart_toList hm, summaryPart_toList hn] at chars
  obtain ⟨digits, rest⟩ := append_inj_of_beginsWith (not_mem_digitsOfNat rfl _)
    (not_mem_digitsOfNat rfl _) (beginsWith_cons ' ' _) (beginsWith_cons ' ' _) chars
  have number := congrArg natOfDigits digits
  rw [natOfDigits_digitsOfNat, natOfDigits_digitsOfNat] at number
  exact ⟨severity_of_noun (String.toList_inj.mp (List.cons.inj rest).2), by omega⟩

theorem summaryPart_ne_none {n : Int} (h : 0 < n) (s : Severity) :
    summaryPart s n ≠ "No problems" := by
  intro none
  have chars : digitsOfNat n.natAbs ++ ' ' :: (noun s n).toList =
      "No".toList ++ ' ' :: "problems".toList := by
    rw [← summaryPart_toList h, none]
    rfl
  obtain ⟨digits, -⟩ := append_inj_of_beginsWith (not_mem_digitsOfNat rfl _) (by decide)
    (beginsWith_cons ' ' _) (beginsWith_cons ' ' _) chars
  have letter : 'N' ∈ digitsOfNat n.natAbs := by
    rw [digits]
    decide
  exact not_mem_digitsOfNat rfl _ letter

theorem comma_not_mem_summaryPart {n : Int} (h : 0 < n) (s : Severity) :
    ',' ∉ (summaryPart s n).toList := by
  have name : ',' ∉ (noun s n).toList := by
    unfold noun
    split <;> cases s <;> decide
  rw [summaryPart_toList h]
  simp [not_mem_digitsOfNat, name, isAsciiDigit]

/-! ## The summary -/

/-- The parts of a summary: those of the severities that occur, or that there are none. -/
def summaryParts (counts : Severity → Int) : List String :=
  match (Severity.all.filter fun s => 0 < counts s).map fun s => summaryPart s (counts s) with
  | [] => ["No problems"]
  | parts => parts

theorem formatSummary_eq (counts : Severity → Int) :
    formatSummary counts = Value.joinTexts ", " (summaryParts counts) := by
  unfold formatSummary summaryParts
  cases (Severity.all.filter fun s => 0 < counts s).map fun s => summaryPart s (counts s) <;> rfl

/-- A part of a summary is that of a severity that occurs, unless no severity does. -/
theorem mem_summaryParts {counts : Severity → Int} {p : String} (h : p ∈ summaryParts counts) :
    p = "No problems" ∨ ∃ s, 0 < counts s ∧ p = summaryPart s (counts s) := by
  unfold summaryParts at h
  split at h
  next => exact .inl (List.mem_singleton.mp h)
  next =>
    obtain ⟨s, named, rfl⟩ := List.mem_map.mp h
    exact .inr ⟨s, by simpa using (List.mem_filter.mp named).2, rfl⟩

theorem summaryPart_mem {counts : Severity → Int} {s : Severity} (h : 0 < counts s) :
    summaryPart s (counts s) ∈ summaryParts counts := by
  have named : summaryPart s (counts s) ∈
      (Severity.all.filter fun s => 0 < counts s).map fun s => summaryPart s (counts s) :=
    List.mem_map.mpr ⟨s, by cases s <;> simp [Severity.all, h], rfl⟩
  unfold summaryParts
  split
  next none => rw [none] at named; cases named
  next => exact named

theorem cutAt_formatSummary (counts : Severity → Int) :
    cutAt ", " (formatSummary counts) = summaryParts counts := by
  have separator : ", ".toList = ',' :: [' '] := rfl
  rw [formatSummary_eq]
  refine cutAt_joinTexts separator (by decide) ?_ fun p part => ?_
  · unfold summaryParts
    split
    · exact List.cons_ne_nil _ _
    · assumption
  · have comma : ',' ∈ ", ".toList := by decide
    refine not_infix_of_not_mem comma ?_
    rcases mem_summaryParts part with rfl | ⟨s, positive, rfl⟩
    · decide
    · exact comma_not_mem_summaryPart positive s

/-- What one summary says, another one that is the same says too. -/
theorem counts_of_formatSummary {c d : Severity → Int} (h : formatSummary c = formatSummary d)
    {s : Severity} (positive : 0 < c s) : d s = c s := by
  have part := summaryPart_mem positive
  rw [← cutAt_formatSummary, h, cutAt_formatSummary] at part
  rcases mem_summaryParts part with none | ⟨t, named, same⟩
  · exact absurd none (summaryPart_ne_none positive s)
  · obtain ⟨rfl, number⟩ := summaryPart_inj positive named same
    exact number.symm

theorem formatSummary_congr {c d : Severity → Int}
    (h : ∀ s, c s = d s ∨ c s ≤ 0 ∧ d s ≤ 0) : formatSummary c = formatSummary d := by
  have named : (Severity.all.filter fun s => 0 < c s) = Severity.all.filter fun s => 0 < d s := by
    refine List.filter_congr fun s _ => decide_eq_decide.mpr ?_
    have := h s
    omega
  have parts : ((Severity.all.filter fun s => 0 < d s).map fun s => summaryPart s (c s)) =
      (Severity.all.filter fun s => 0 < d s).map fun s => summaryPart s (d s) := by
    refine List.map_congr_left fun s hs => ?_
    have positive : 0 < d s := by simpa using (List.mem_filter.mp hs).2
    have same : c s = d s := by
      have := h s
      omega
    rw [same]
  rw [formatSummary, formatSummary, named, parts]

/-- **The summary is faithful.** Each severity that occurs has one count, which is how often it
occurs, whatever the order of the findings; together they count the marks that are rendered. Two
numberings have the same summary exactly if they give each severity the same number, or both
give it none. -/
theorem summary_faithful :
    (∀ xs : List Finding,
      let counts := countSeverities (group xs)
      (counts.map (·.1)).Nodup ∧
      (∀ s n, (s, n) ∈ counts ↔ 0 < n ∧ xs.countP (·.severity == s) = n) ∧
      (∀ s, counts.get s = xs.countP (·.severity == s)) ∧
      (∀ ys : List Finding, ys.Perm xs → (countSeverities (group ys)).Perm counts) ∧
      (counts.map (·.2)).sum = xs.length ∧
      ∀ (r : Renderer) (next : Nat),
        (r.render next (group xs)).2.live.length = (counts.map (·.2)).sum) ∧
    ∀ c d : Severity → Int,
      formatSummary c = formatSummary d ↔ ∀ s, c s = d s ∨ c s ≤ 0 ∧ d s ≤ 0 := by
  refine ⟨fun xs => ?_, fun c d => ⟨fun h s => ?_, formatSummary_congr⟩⟩
  · intro counts
    have perm := allFindings_group xs
    have sum : (counts.map (·.2)).sum = (allFindings (group xs)).length :=
      sum_countSeverities (group xs)
    refine ⟨(tallied_countSeverities (group xs)).distinct,
      fun s n => mem_countSeverities_group, fun s => ?_, fun ys h => countSeverities_perm h,
      sum.trans perm.length_eq, fun r next => ?_⟩
    · exact (get_countSeverities (group xs) s).trans (perm.countP_eq _)
    · rw [sum]
      simp [Renderer.render]
  · by_cases left : 0 < c s
    · exact .inl (counts_of_formatSummary h left).symm
    · by_cases right : 0 < d s
      · exact .inl (counts_of_formatSummary h.symm right)
      · exact .inr ⟨Int.not_lt.mp left, Int.not_lt.mp right⟩

/-- Three findings in another order have the same counts, and a number of warnings below zero is
not named in the summary, as zero is not. -/
theorem summary_faithful_reordered :
    let on (line : Int) (severity : Severity) : Finding :=
      ⟨.point ⟨line, 1⟩, severity, "", "", "", ""⟩
    let xs := [on 3 .error, on 1 .info, on 2 .error]
    let ys := [on 2 .error, on 3 .error, on 1 .info]
    let counts := countSeverities (group xs)
    let fewer (s : Severity) : Int := if s = .warning then -3 else counts.get s
    (ys.Perm xs ∧ ∀ s, fewer s = counts.get s ∨ fewer s ≤ 0 ∧ (counts.get s : Int) ≤ 0) ∧
      (countSeverities (group ys)).Perm counts ∧ counts.get .error = 2 ∧
      formatSummary fewer = counts.summary := by
  intro on xs ys counts fewer
  have perm : ys.Perm xs := by decide
  have errors : counts.get .error = 2 := (summary_faithful.1 xs).2.2.1 .error
  have warnings : counts.get .warning = 0 := (summary_faithful.1 xs).2.2.1 .warning
  have same : ∀ s, fewer s = counts.get s ∨ fewer s ≤ 0 ∧ (counts.get s : Int) ≤ 0 := by
    intro s
    by_cases warning : s = .warning
    · subst warning
      refine .inr ⟨by decide, ?_⟩
      omega
    · exact .inl (if_neg warning)
  exact ⟨⟨perm, same⟩, (summary_faithful.1 xs).2.2.2.1 ys perm, errors,
    (summary_faithful.2 fewer fun s => counts.get s).mpr same⟩

end LiveLint
