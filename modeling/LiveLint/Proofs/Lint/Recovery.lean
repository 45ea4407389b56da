import LiveLint.Proofs.Text.Escaping

/-! # Explanations lose nothing

An explanation is read from the front. A text ends where the next tag begins, and the tag behind it
tells whether a suggestion, details or examples follow. So two explanations are the same only if
all that they show is. Nowhere in an explanation is there a plain rule, so the explanations of a
line are found again by cutting at the rules between them. -/

namespace LiveLint.Text

/-! ## Reading from the front -/

variable {opening closing u v : String}

/-- A text is known if it ends where the first character of what comes behind it comes first. -/
theorem between_inj {d : Char} {s t : String} (hs : d ∉ s.toList) (ht : d ∉ t.toList)
    (stop : closing.toList.head? = some d)
    (h : opening ++ (s ++ (closing ++ u)) = opening ++ (t ++ (closing ++ v))) :
    s = t ∧ u = v := by
  have begins (r : String) : BeginsWith d (closing ++ r).toList := by
    obtain ⟨tail, chars⟩ := List.head?_eq_some_iff.mp stop
    rw [String.toList_append, chars]
    exact beginsWith_cons d _
  have chars : s.toList ++ (closing ++ u).toList = t.toList ++ (closing ++ v).toList := by
    rw [← String.toList_append, ← String.toList_append, (String.append_right_inj opening).mp h]
  obtain ⟨texts, rest⟩ := append_inj_of_beginsWith hs ht (begins u) (begins v) chars
  exact ⟨String.toList_inj.mp texts,
    (String.append_right_inj closing).mp (String.toList_inj.mp rest)⟩

/-- An escaped text between two tags is known, and so is what follows. -/
theorem escaped_inj {x y : String} (h : opening ++ (escapeMarkup x ++ (closing ++ u)) =
      opening ++ (escapeMarkup y ++ (closing ++ v))) (tag : closing.toList.head? = some '<') :
    x = y ∧ u = v := by
  have outside (s : String) : '<' ∉ (escapeMarkup s).toList := fun inside =>
    (mem_escapeMarkup inside).1 rfl
  obtain ⟨texts, rest⟩ := between_inj (outside x) (outside y) tag h
  exact ⟨escapeMarkup_injective texts, rest⟩

/-- Neither text begins with the other. -/
def Apart (s t : String) : Prop := ¬ s.toList <+: t.toList ∧ ¬ t.toList <+: s.toList

instance (s t : String) : Decidable (Apart s t) := inferInstanceAs (Decidable (_ ∧ _))

theorem Apart.append_ne {s t : String} (h : Apart s t) (u v : String) : s ++ u ≠ t ++ v := by
  intro same
  have chars : s.toList ++ u.toList = t.toList ++ v.toList := by
    rw [← String.toList_append, ← String.toList_append, same]
  have begins : s.toList <+: t.toList ++ v.toList := ⟨u.toList, chars⟩
  rcases List.prefix_or_prefix_of_prefix begins (List.prefix_append _ _) with left | right
  · exact h.1 left
  · exact h.2 right

/-- A block that is left out where its text is empty is known, if nothing else begins as it does. -/
theorem block_inj (tag : closing.toList.head? = some '<') {x y : String}
    (hu : ∀ r, u ≠ opening ++ r) (hv : ∀ r, v ≠ opening ++ r)
    (h : (if x.isEmpty then "" else opening ++ escapeMarkup x ++ closing) ++ u =
      (if y.isEmpty then "" else opening ++ escapeMarkup y ++ closing) ++ v) : x = y ∧ u = v := by
  by_cases left : x.isEmpty <;> by_cases right : y.isEmpty
  · rw [if_pos left, if_pos right, String.append_right_inj] at h
    exact ⟨(String.isEmpty_iff.mp left).trans (String.isEmpty_iff.mp right).symm, h⟩
  · rw [if_pos left, if_neg right, String.empty_append, String.append_assoc,
      String.append_assoc] at h
    exact absurd h (hu _)
  · rw [if_neg left, if_pos right, String.empty_append, String.append_assoc,
      String.append_assoc] at h
    exact absurd h.symm (hv _)
  · rw [if_neg left, if_neg right] at h
    simp only [String.append_assoc] at h
    exact escaped_inj h tag

end LiveLint.Text

namespace LiveLint
open Text

/-! ## Examples -/

/-- The texts of an example that are shown. -/
def Example.shownTexts (e : Example) : List String :=
  [e.bad, e.badExplanation, e.good, e.goodExplanation]

theorem Example.markup_append_inj {e f : Example} {u v : String}
    (h : e.markup ++ u = f.markup ++ v) : e.shownTexts = f.shownTexts ∧ u = v := by
  unfold markup at h
  simp only [String.append_assoc] at h
  rw [String.append_right_inj, String.append_right_inj] at h
  obtain ⟨bad, h⟩ := escaped_inj h rfl
  obtain ⟨badExplanation, h⟩ := escaped_inj h rfl
  rw [String.append_right_inj] at h
  obtain ⟨good, h⟩ := escaped_inj h rfl
  obtain ⟨goodExplanation, h⟩ := escaped_inj h rfl
  rw [String.append_right_inj] at h
  exact ⟨by rw [shownTexts, shownTexts, bad, badExplanation, good, goodExplanation], h⟩

theorem joinTexts_empty_cons (s : String) (rest : List String) :
    Value.joinTexts "" (s :: rest) = s ++ Value.joinTexts "" rest := by
  cases rest with
  | nil => exact String.append_empty.symm
  | cons t rest =>
    show s ++ "" ++ Value.joinTexts "" (t :: rest) = _
    rw [String.append_empty]

theorem Example.markup_begins (e : Example) : ∃ r, e.markup = "<div class='example'>" ++ r := by
  unfold markup
  simp only [String.append_assoc]
  exact ⟨_, rfl⟩

/-- The examples end where no further one begins. -/
theorem joined_examples_inj {es fs : List Example}
    (h : Value.joinTexts "" (es.map (·.markup)) ++ "</div>" =
      Value.joinTexts "" (fs.map (·.markup)) ++ "</div>") :
    es.map (·.shownTexts) = fs.map (·.shownTexts) := by
  have one_more (f : Example) (rest : String) : "</div>" ≠ f.markup ++ rest := by
    intro same
    have apart : Apart "</div>" "<div class='example'>" := by decide +kernel
    obtain ⟨r, begins⟩ := f.markup_begins
    rw [begins, String.append_assoc, ← String.append_empty (s := "</div>")] at same
    exact apart.append_ne _ _ same
  induction es generalizing fs with
  | nil =>
    cases fs with
    | nil => rfl
    | cons f fs =>
      rw [List.map_cons, joinTexts_empty_cons, String.append_assoc] at h
      exact absurd h (one_more f _)
  | cons e es ih =>
    cases fs with
    | nil =>
      rw [List.map_cons, joinTexts_empty_cons, String.append_assoc] at h
      exact absurd h.symm (one_more e _)
    | cons f fs =>
      rw [List.map_cons, List.map_cons, joinTexts_empty_cons, joinTexts_empty_cons,
        String.append_assoc, String.append_assoc] at h
      obtain ⟨texts, rest⟩ := Example.markup_append_inj h
      rw [List.map_cons, List.map_cons, texts, ih rest]

theorem examplesMarkup_cons (e : Example) (es : List Example) :
    examplesMarkup (e :: es) = "<hr class='example-sep'>" ++
      ("<div class='example-container'><div class='example-header'>Examples:</div>" ++
        (Value.joinTexts "" ((e :: es).map (·.markup)) ++ "</div>")) := by
  rw [examplesMarkup, String.append_assoc, String.append_assoc]
  exact List.cons_ne_nil e es

/-- Only the block of examples begins as it does. -/
theorem examplesMarkup_ne {opening : String} (h : Apart "<hr class='example-sep'>" opening)
    (es : List Example) (r : String) : examplesMarkup es ≠ opening ++ r := by
  cases es with
  | nil =>
    intro none
    have empty : opening = "" := (String.append_eq_empty_iff.mp none.symm).1
    subst empty
    exact h.2 List.nil_prefix
  | cons e es =>
    rw [examplesMarkup_cons]
    exact h.append_ne _ _

theorem examplesMarkup_inj {es fs : List Example} (h : examplesMarkup es = examplesMarkup fs) :
    es.map (·.shownTexts) = fs.map (·.shownTexts) := by
  cases es with
  | nil =>
    cases fs with
    | nil => rfl
    | cons f fs =>
      rw [examplesMarkup_cons] at h
      exact absurd (String.append_eq_empty_iff.mp h.symm).1 (by decide)
  | cons e es =>
    cases fs with
    | nil =>
      rw [examplesMarkup_cons] at h
      exact absurd (String.append_eq_empty_iff.mp h).1 (by decide)
    | cons f fs =>
      rw [examplesMarkup_cons, examplesMarkup_cons, String.append_right_inj,
        String.append_right_inj] at h
      exact joined_examples_inj h

theorem Example.markup_congr {e f : Example} (h : e.shownTexts = f.shownTexts) :
    e.markup = f.markup := by
  simp only [shownTexts, List.cons.injEq, and_true] at h
  obtain ⟨bad, badExplanation, good, goodExplanation⟩ := h
  unfold markup
  rw [bad, badExplanation, good, goodExplanation]

/-- The block of examples shows nothing else of them. -/
theorem examplesMarkup_congr {es fs : List Example}
    (h : es.map (·.shownTexts) = fs.map (·.shownTexts)) :
    examplesMarkup es = examplesMarkup fs := by
  have blocks : es.map (·.markup) = fs.map (·.markup) := by
    induction es generalizing fs with
    | nil => rw [List.map_eq_nil_iff.mp h.symm]
    | cons e es ih =>
      cases fs with
      | nil => cases h
      | cons f fs =>
        obtain ⟨first, rest⟩ := List.cons.inj h
        rw [List.map_cons, List.map_cons, Example.markup_congr first, ih rest]
  cases es with
  | nil => rw [List.map_eq_nil_iff.mp h.symm]
  | cons e es =>
    cases fs with
    | nil => cases h
    | cons f fs => rw [examplesMarkup_cons, examplesMarkup_cons, blocks]

/-! ## Findings -/

theorem Severity.name_injective {s t : Severity} (h : s.name = t.name) : s = t := by
  cases s <;> cases t <;> simp_all [name]

namespace Finding

theorem details_append_inj {a b : Finding} {es fs : List Example}
    (h : a.detailsMarkup ++ examplesMarkup es = b.detailsMarkup ++ examplesMarkup fs) :
    a.details = b.details ∧ examplesMarkup es = examplesMarkup fs := by
  have other : Apart "<hr class='example-sep'>" "<div class='explanation_long'>" := by
    decide +kernel
  exact block_inj rfl (examplesMarkup_ne other es) (examplesMarkup_ne other fs) h

theorem suggestion_append_inj {a b : Finding} {es fs : List Example}
    (h : a.suggestionMarkup ++ (a.detailsMarkup ++ examplesMarkup es) =
      b.suggestionMarkup ++ (b.detailsMarkup ++ examplesMarkup fs)) :
    a.suggestion = b.suggestion ∧
      a.detailsMarkup ++ examplesMarkup es = b.detailsMarkup ++ examplesMarkup fs := by
  have examples : Apart "<hr class='example-sep'>" "<div class='solution'>&#8618; " := by
    decide +kernel
  have details : Apart "<div class='explanation_long'>" "<div class='solution'>&#8618; " := by
    decide +kernel
  have other (a : Finding) (es : List Example) (r : String) :
      a.detailsMarkup ++ examplesMarkup es ≠ "<div class='solution'>&#8618; " ++ r := by
    unfold detailsMarkup
    split
    · rw [String.empty_append]
      exact examplesMarkup_ne examples es r
    · rw [String.append_assoc, String.append_assoc]
      exact details.append_ne _ _
  exact block_inj rfl (other a es) (other b fs) h

/-- Explanations that are the same explain the same. -/
theorem markup_inj {lookup lookup' : Option ExampleLookup} {a b : Finding}
    (h : a.markup lookup = b.markup lookup') :
    a.severity = b.severity ∧ a.message = b.message ∧ a.suggestion = b.suggestion ∧
      a.details = b.details ∧ (examplesFor lookup a.kind).map (·.shownTexts) =
        (examplesFor lookup' b.kind).map (·.shownTexts) := by
  unfold markup at h
  simp only [String.append_assoc] at h
  have quote (s : Severity) : '\'' ∉ s.name.toList := by cases s <;> decide
  obtain ⟨severity, h⟩ := between_inj (quote _) (quote _) rfl h
  obtain ⟨message, h⟩ := escaped_inj h rfl
  obtain ⟨suggestion, h⟩ := suggestion_append_inj h
  obtain ⟨details, h⟩ := details_append_inj h
  exact ⟨Severity.name_injective severity, message, suggestion, details, examplesMarkup_inj h⟩

/-- Explanations show nothing else. -/
theorem markup_congr {lookup lookup' : Option ExampleLookup} {a b : Finding}
    (severity : a.severity = b.severity) (message : a.message = b.message)
    (suggestion : a.suggestion = b.suggestion) (details : a.details = b.details)
    (examples : (examplesFor lookup a.kind).map (·.shownTexts) =
      (examplesFor lookup' b.kind).map (·.shownTexts)) :
    a.markup lookup = b.markup lookup' := by
  unfold markup suggestionMarkup detailsMarkup
  rw [severity, message, suggestion, details, examplesMarkup_congr examples]

end Finding

/-! ## No rule in an explanation -/

/-- A text without a rule that begins with a tag, if it is not empty. -/
structure RuleFree (s : String) : Prop where
  begins : BeginsWith '<' s.toList
  free : ¬ "<hr>".toList <:+: s.toList

/-- A text behind which another one may stand: it ends with a tag, or with a space. -/
structure Opens (s : String) : Prop extends RuleFree s where
  last : s.toList.getLast? = some '>' ∨ s.toList.getLast? = some ' '

instance (s : String) : Decidable (RuleFree s) :=
  decidable_of_iff (BeginsWith '<' s.toList ∧ ¬ "<hr>".toList <:+: s.toList)
    ⟨fun ⟨begins, free⟩ => ⟨begins, free⟩, fun h => ⟨h.begins, h.free⟩⟩

instance (s : String) : Decidable (Opens s) :=
  decidable_of_iff
    (RuleFree s ∧ (s.toList.getLast? = some '>' ∨ s.toList.getLast? = some ' '))
    ⟨fun ⟨free, last⟩ => ⟨free, last⟩, fun h => ⟨h.toRuleFree, h.last⟩⟩

theorem RuleFree.append {s t : String} (hs : RuleFree s) (ht : RuleFree t) :
    RuleFree (s ++ t) where
  begins := String.toList_append ▸ hs.begins.append ht.begins
  free := by
    rw [String.toList_append]
    refine not_infix_append hs.free ht.free (.inr fun c first => ?_)
    rw [ht.begins c first]
    decide

/-- An escaped text between tags makes no rule. -/
theorem Opens.text {opening closing : String} (h : Opens opening) (x : String)
    (hc : RuleFree closing) : RuleFree (opening ++ escapeMarkup x ++ closing) := by
  refine RuleFree.append ⟨fun c first => ?_, ?_⟩ hc
  · rw [String.toList_append] at first
    cases chars : opening.toList with
    | nil =>
      have last := h.last
      simp [chars] at last
    | cons d r =>
      rw [chars] at first
      exact h.begins c (chars ▸ first)
  · have tag : '<' ∈ "<hr>".toList := by decide
    have plain : ¬ "<hr>".toList <:+: (escapeMarkup x).toList :=
      not_infix_of_not_mem tag fun inside => (mem_escapeMarkup inside).1 rfl
    rw [String.toList_append]
    refine not_infix_append h.free plain (.inl fun c ends => ?_)
    have last := h.last
    rw [ends, Option.some.injEq, Option.some.injEq] at last
    rcases last with rfl | rfl <;> decide

theorem RuleFree.field {s opening closing : String} (h : RuleFree s) (ho : Opens opening)
    (x : String) (hc : RuleFree closing) :
    RuleFree (s ++ opening ++ escapeMarkup x ++ closing) := by
  have apart := h.append (ho.text x hc)
  rwa [← String.append_assoc, ← String.append_assoc] at apart

theorem RuleFree.joinTexts {ss : List String} (h : ∀ s ∈ ss, RuleFree s) :
    RuleFree (Value.joinTexts "" ss) := by
  induction ss with
  | nil => decide
  | cons s rest ih =>
    obtain ⟨first, others⟩ := List.forall_mem_cons.mp h
    rw [joinTexts_empty_cons]
    exact first.append (ih others)

theorem Example.ruleFree (e : Example) : RuleFree e.markup := by
  have start : RuleFree
      ("<div class='example'>" ++ "<div class='example-bad-tag'><b>bad:</b></div>") := by
    decide +kernel
  have good : RuleFree "<div class='example-good-tag'><b>good:</b></div>" := by decide +kernel
  have pre : RuleFree "</pre>" := by decide +kernel
  have div : RuleFree "</div>" := by decide +kernel
  exact start.field (by decide +kernel) e.bad pre |>.field (by decide +kernel) e.badExplanation div
    |>.append good |>.field (by decide +kernel) e.good pre
    |>.field (by decide +kernel) e.goodExplanation div |>.append div

theorem examplesMarkup_ruleFree (es : List Example) : RuleFree (examplesMarkup es) := by
  cases es with
  | nil => decide
  | cons e es =>
    have separator : RuleFree "<hr class='example-sep'>" := by decide +kernel
    have header : RuleFree
        "<div class='example-container'><div class='example-header'>Examples:</div>" := by
      decide +kernel
    have blocks : RuleFree (Value.joinTexts "" ((e :: es).map (·.markup))) := by
      refine .joinTexts fun s hs => ?_
      obtain ⟨f, -, rfl⟩ := List.mem_map.mp hs
      exact f.ruleFree
    have closing : RuleFree "</div>" := by decide +kernel
    rw [examplesMarkup_cons]
    exact separator.append (header.append (blocks.append closing))

namespace Finding

theorem suggestionMarkup_ruleFree (a : Finding) : RuleFree a.suggestionMarkup := by
  unfold suggestionMarkup
  split
  · decide
  · exact Opens.text (by decide +kernel) a.suggestion (by decide +kernel)

theorem detailsMarkup_ruleFree (a : Finding) : RuleFree a.detailsMarkup := by
  unfold detailsMarkup
  split
  · decide
  · exact Opens.text (by decide +kernel) a.details (by decide +kernel)

theorem markup_ruleFree (lookup : Option ExampleLookup) (a : Finding) :
    RuleFree (a.markup lookup) := by
  have severity (s : Severity) :
      Opens ("<div class='explanation explanation-" ++ s.name ++ "'>" ++ "<b>") := by
    cases s <;> decide +kernel
  have closing : RuleFree "</b></div>" := by decide +kernel
  have message := (severity a.severity).text a.message closing
  exact message.append a.suggestionMarkup_ruleFree |>.append a.detailsMarkup_ruleFree
    |>.append (examplesMarkup_ruleFree _)

/-! ## What is shown -/

/-- A look-up that fails or knows nothing is as good as none. -/
theorem markup_of_failing {find : ExampleLookup} {a : Finding}
    (h : (∃ f, find a.kind = .error f) ∨ find a.kind = .ok none) :
    a.markup (some find) = a.markup none := by
  have nothing : examplesFor (some find) a.kind = [] := by
    unfold examplesFor
    dsimp only
    split
    · rfl
    · rcases h with ⟨f, fails⟩ | unknown
      · rw [fails]
      · rw [unknown]
  refine markup_congr rfl rfl rfl rfl ?_
  rw [nothing]
  rfl

/-- **Explanations lose nothing.** Cutting the explanations of a line at the rules between them
gives those of the findings one by one. Two explanations are the same exactly if the findings have
the same severity, message, suggestion and details, and examples with the same texts. A look-up of
examples that fails or knows nothing makes no difference. -/
theorem markup_recoverable :
    (∀ (lookup : Option ExampleLookup) (xs : List Finding), xs ≠ [] →
      cutAt "<hr>" (findingsMarkup lookup xs) = xs.map (·.markup lookup)) ∧
    (∀ (lookup lookup' : Option ExampleLookup) (a b : Finding),
      a.markup lookup = b.markup lookup' ↔
        a.severity = b.severity ∧ a.message = b.message ∧ a.suggestion = b.suggestion ∧
          a.details = b.details ∧ (examplesFor lookup a.kind).map (·.shownTexts) =
            (examplesFor lookup' b.kind).map (·.shownTexts)) ∧
    ∀ (find : ExampleLookup) (a : Finding),
      (∃ f, find a.kind = .error f) ∨ find a.kind = .ok none →
        a.markup (some find) = a.markup none := by
  refine ⟨fun lookup xs filled => ?_, fun lookup lookup' a b => ⟨markup_inj, ?_⟩,
    fun find a h => markup_of_failing h⟩
  · have separator : "<hr>".toList = '<' :: ['h', 'r', '>'] := rfl
    refine cutAt_joinTexts separator (by decide) (mt List.map_eq_nil_iff.mp filled) fun p hp => ?_
    obtain ⟨a, -, rfl⟩ := List.mem_map.mp hp
    exact (a.markup_ruleFree lookup).free
  · rintro ⟨severity, message, suggestion, details, examples⟩
    exact markup_congr severity message suggestion details examples

/-- A message and an example that look like rules are no rules, and a suggestion that looks like an
escaped one is another one. -/
theorem markup_recoverable_hostile :
    let a : Finding := ⟨.point ⟨1, 1⟩, .error, "a<hr>b", "", "&lt;", "html"⟩
    let b : Finding := ⟨.point ⟨2, 1⟩, .error, "a<hr>b", "", "<", "html"⟩
    let c : Finding := ⟨.point ⟨3, 1⟩, .info, "", "", "", "length"⟩
    let find : ExampleLookup := fun kind =>
      if kind = "html" then .ok (some [⟨kind, "", "<hr>", "", "&", "'>"⟩])
      else .error (.raised "KeyError" kind)
    ([a, b] ≠ [] ∧ find c.kind = .error (.raised "KeyError" "length")) ∧
      cutAt "<hr>" (findingsMarkup (some find) [a, b]) =
        [a.markup (some find), b.markup (some find)] ∧
      a.markup (some find) ≠ b.markup (some find) ∧ c.markup (some find) = c.markup none := by
  intro a b c find
  have filled : [a, b] ≠ [] := List.cons_ne_nil a [b]
  have fails : find c.kind = .error (.raised "KeyError" "length") := if_neg (by decide)
  refine ⟨⟨filled, fails⟩, markup_recoverable.1 (some find) [a, b] filled, fun same => ?_,
    markup_recoverable.2.2 find c (.inl ⟨_, fails⟩)⟩
  obtain ⟨-, -, suggestion, -⟩ := (markup_recoverable.2.1 (some find) (some find) a b).mp same
  exact absurd suggestion (by decide)

end Finding
end LiveLint
