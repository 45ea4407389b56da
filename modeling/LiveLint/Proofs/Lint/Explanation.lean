import LiveLint.Lint.Explanation
import Mathlib.Data.List.Forall2

/-! # Explanations keep text and markup apart

What linters and examples say goes into explanations as escaped text. So the tags of an
explanation show nothing of it: they depend on the severity of the finding, on which of its parts
there are, and on the number of examples. An ampersand begins one of the references that escaping
writes, or the arrow before a suggestion. -/

namespace LiveLint.Text

/-! ## Tags -/

/-- Whether a tag is open after a character. -/
def opensTag (inTag : Bool) (c : Char) : Bool := (inTag || c == '<') && c != '>'

/-- What is left when every character outside of tags is deleted. -/
def tagsFrom (inTag : Bool) : List Char → List Char
  | [] => []
  | c :: r =>
    if inTag || c == '<' then c :: tagsFrom (opensTag inTag c) r
    else tagsFrom (opensTag inTag c) r

/-- The tags of a text, one after the other. -/
def tags (s : String) : String := String.ofList (tagsFrom false s.toList)

/-- No tag is left open at the end of the text. -/
def EndsOutside (s : String) : Prop := s.toList.foldl opensTag false = false

theorem tagsFrom_append (inTag : Bool) (cs ds : List Char) :
    tagsFrom inTag (cs ++ ds) = tagsFrom inTag cs ++ tagsFrom (cs.foldl opensTag inTag) ds := by
  induction cs generalizing inTag with
  | nil => rfl
  | cons c r ih =>
    simp only [List.cons_append, tagsFrom, List.foldl_cons, ih]
    split <;> rfl

theorem tags_append {s : String} (h : EndsOutside s) (t : String) :
    tags (s ++ t) = tags s ++ tags t := by
  have outside : s.toList.foldl opensTag false = false := h
  rw [tags, String.toList_append, tagsFrom_append, outside, String.ofList_append]
  rfl

theorem EndsOutside.append {s t : String} (hs : EndsOutside s) (ht : EndsOutside t) :
    EndsOutside (s ++ t) := by
  have outside : s.toList.foldl opensTag false = false := hs
  rw [EndsOutside, String.toList_append, List.foldl_append, outside]
  exact ht

/-- Characters that neither open nor close a tag are outside of tags. -/
theorem tagsFrom_plain {cs : List Char} (h : ∀ c ∈ cs, c ≠ '<' ∧ c ≠ '>') :
    tagsFrom false cs = [] ∧ cs.foldl opensTag false = false := by
  induction cs with
  | nil => exact ⟨rfl, rfl⟩
  | cons c r ih =>
    obtain ⟨⟨opening, -⟩, rest⟩ := List.forall_mem_cons.mp h
    have outside : opensTag false c = false := by simp [opensTag, opening]
    simpa [tagsFrom, outside, opening] using ih rest

/-! ## References -/

/-- The references that explanations write: the five of escaping, and the arrow. -/
def references : List String := ["&amp;", "&lt;", "&gt;", "&quot;", "&#x27;", "&#8618;"]

/-- Every ampersand begins a reference. -/
def Referenced (s : String) : Prop :=
  ∀ r, ('&' :: r) <:+ s.toList → ∃ e ∈ references, e.toList <+: '&' :: r

/-- A test for it that looks at one place after the other. -/
def isReferenced : List Char → Bool
  | [] => true
  | c :: r => (c != '&' || references.any (·.toList.isPrefixOf (c :: r))) && isReferenced r

theorem isReferenced_iff (cs : List Char) : isReferenced cs = true ↔
    ∀ r, ('&' :: r) <:+ cs → ∃ e ∈ references, e.toList <+: '&' :: r := by
  induction cs with
  | nil => simp [isReferenced]
  | cons c rest ih =>
    simp only [isReferenced, Bool.and_eq_true, ih, List.suffix_cons_iff, List.cons.injEq]
    constructor
    · rintro ⟨here, later⟩ r (⟨rfl, rfl⟩ | behind)
      · simpa using here
      · exact later r behind
    · intro h
      refine ⟨?_, fun r behind => h r (.inr behind)⟩
      by_cases amp : c = '&'
      · subst amp
        simpa using h rest (.inl ⟨rfl, rfl⟩)
      · simp [amp]

theorem Referenced.append {s t : String} (hs : Referenced s) (ht : Referenced t) :
    Referenced (s ++ t) := by
  intro r behind
  rw [String.toList_append] at behind
  obtain ⟨before, split⟩ := behind
  rcases List.append_eq_append_iff.mp split with ⟨gap, e, e'⟩ | ⟨gap, -, e⟩
  · cases gap with
    | nil => exact ht r ⟨[], e'⟩
    | cons c rest =>
      -- the ampersand stands in the first text, and so does its reference
      obtain ⟨rfl, rfl⟩ := List.cons.inj e'
      obtain ⟨ref, mem, start⟩ := hs rest ⟨before, e.symm⟩
      exact ⟨ref, mem, start.trans (List.prefix_append _ _)⟩
  · exact ht r ⟨gap, e.symm⟩

/-! ## Markup -/

/-- A text in which all tags are closed and every ampersand begins a reference. -/
structure IsMarkup (s : String) : Prop where
  closed : EndsOutside s
  referenced : Referenced s

instance (s : String) : Decidable (IsMarkup s) :=
  decidable_of_iff (s.toList.foldl opensTag false = false ∧ isReferenced s.toList = true)
    ⟨fun ⟨closed, h⟩ => ⟨closed, (isReferenced_iff _).mp h⟩,
      fun h => ⟨h.closed, (isReferenced_iff _).mpr h.referenced⟩⟩

theorem IsMarkup.append {s t : String} (hs : IsMarkup s) (ht : IsMarkup t) : IsMarkup (s ++ t) :=
  ⟨hs.closed.append ht.closed, hs.referenced.append ht.referenced⟩

/-- Two texts with the same tags. -/
structure SameMarkup (s t : String) : Prop where
  left : IsMarkup s
  right : IsMarkup t
  tags_eq : tags s = tags t

/-! ## Escaped text -/

/-- A character is written as a reference, or it means nothing in markup. -/
theorem escapeMarkupChar_cases (c : Char) :
    (∃ e ∈ references, escapeMarkupChar c = e.toList) ∨
      escapeMarkupChar c = [c] ∧ c ≠ '&' ∧ c ≠ '<' ∧ c ≠ '>' := by
  unfold escapeMarkupChar
  split
  · exact .inl ⟨"&amp;", by decide, rfl⟩
  split
  · exact .inl ⟨"&lt;", by decide, rfl⟩
  split
  · exact .inl ⟨"&gt;", by decide, rfl⟩
  split
  · exact .inl ⟨"&quot;", by decide, rfl⟩
  split
  · exact .inl ⟨"&#x27;", by decide, rfl⟩
  · exact .inr ⟨rfl, ‹_›, ‹_›, ‹_›⟩

theorem references_plain : ∀ e ∈ references, ∀ c ∈ e.toList, c ≠ '<' ∧ c ≠ '>' := by
  have plain : references.all fun e => e.toList.all fun c => c != '<' && c != '>' := by decide
  simpa only [List.all_eq_true, Bool.and_eq_true, bne_iff_ne] using plain

theorem references_isMarkup : ∀ e ∈ references, IsMarkup e := by decide

theorem mem_escapeMarkup {s : String} {c : Char} (h : c ∈ (escapeMarkup s).toList) :
    c ≠ '<' ∧ c ≠ '>' := by
  rw [escapeMarkup, String.toList_ofList] at h
  obtain ⟨d, -, written⟩ := List.mem_flatMap.mp h
  obtain ⟨e, reference, same⟩ | ⟨same, -, plain⟩ := escapeMarkupChar_cases d
  · exact references_plain e reference c (same ▸ written)
  · rw [same] at written
    exact List.mem_singleton.mp written ▸ plain

theorem referenced_escapeMarkup (s : String) : Referenced (escapeMarkup s) := by
  have chars (cs : List Char) : Referenced (String.ofList (cs.flatMap escapeMarkupChar)) := by
    induction cs with
    | nil => exact (show IsMarkup "" by decide).referenced
    | cons c rest ih =>
      rw [List.flatMap_cons, String.ofList_append]
      refine Referenced.append ?_ ih
      obtain ⟨e, reference, same⟩ | ⟨same, plain, -⟩ := escapeMarkupChar_cases c
      · rw [same, String.ofList_toList]
        exact (references_isMarkup e reference).referenced
      · intro r behind
        rw [same, String.toList_ofList, List.suffix_cons_iff] at behind
        rcases behind with here | none
        · exact absurd (List.cons.inj here).1.symm plain
        · exact absurd (List.suffix_nil.mp none) (List.cons_ne_nil _ _)
  exact chars s.toList

theorem isMarkup_escapeMarkup (s : String) : IsMarkup (escapeMarkup s) :=
  ⟨(tagsFrom_plain fun _ => mem_escapeMarkup).2, referenced_escapeMarkup s⟩

/-- Escaped texts have no tags. -/
theorem tags_escapeMarkup (s : String) : tags (escapeMarkup s) = "" := by
  rw [tags, (tagsFrom_plain fun _ => mem_escapeMarkup).1]

/-! ## The same markup around different texts -/

namespace SameMarkup

variable {s s' t t' after : String}

theorem refl (h : IsMarkup s) : SameMarkup s s := ⟨h, h, rfl⟩

theorem append (hs : SameMarkup s s') (ht : SameMarkup t t') :
    SameMarkup (s ++ t) (s' ++ t') where
  left := hs.left.append ht.left
  right := hs.right.append ht.right
  tags_eq := by
    rw [tags_append hs.left.closed, tags_append hs.right.closed, hs.tags_eq, ht.tags_eq]

theorem fixed (h : SameMarkup s t) (after_markup : IsMarkup after) :
    SameMarkup (s ++ after) (t ++ after) := h.append (refl after_markup)

theorem text (h : SameMarkup s t) (x y : String) (after_markup : IsMarkup after) :
    SameMarkup (s ++ escapeMarkup x ++ after) (t ++ escapeMarkup y ++ after) := by
  have escaped : SameMarkup (escapeMarkup x) (escapeMarkup y) :=
    ⟨isMarkup_escapeMarkup x, isMarkup_escapeMarkup y,
      (tags_escapeMarkup x).trans (tags_escapeMarkup y).symm⟩
  exact (h.append escaped).fixed after_markup

theorem joinTexts {ss ts : List String} (h : List.Forall₂ SameMarkup ss ts) :
    SameMarkup (Value.joinTexts "" ss) (Value.joinTexts "" ts) := by
  induction h with
  | nil => exact refl (by decide)
  | cons first rest ih =>
    cases rest with
    | nil => exact first
    | cons _ _ => exact (first.fixed (by decide)).append ih

end SameMarkup

end LiveLint.Text

namespace LiveLint
open Text

/-! ## Explanations -/

theorem Example.markup_same (e f : Example) : SameMarkup e.markup f.markup :=
  SameMarkup.refl (by decide +kernel) |>.text e.bad f.bad (by decide +kernel)
    |>.fixed (by decide +kernel) |>.text e.badExplanation f.badExplanation (by decide +kernel)
    |>.fixed (by decide +kernel) |>.fixed (by decide +kernel)
    |>.text e.good f.good (by decide +kernel) |>.fixed (by decide +kernel)
    |>.text e.goodExplanation f.goodExplanation (by decide +kernel) |>.fixed (by decide +kernel)

theorem examplesMarkup_same {es fs : List Example} (h : es.length = fs.length) :
    SameMarkup (examplesMarkup es) (examplesMarkup fs) := by
  have pairs : List.Forall₂ SameMarkup (es.map (·.markup)) (fs.map (·.markup)) := by
    rw [List.forall₂_map_left_iff, List.forall₂_map_right_iff, List.forall₂_iff_zip]
    exact ⟨h, fun _ => Example.markup_same _ _⟩
  match es, fs, h with
  | [], [], _ => exact .refl (by decide)
  | e :: es, f :: fs, _ =>
    exact ((SameMarkup.refl (by decide +kernel)).append (.joinTexts pairs)).fixed (by decide)

namespace Finding

theorem suggestionMarkup_same {a b : Finding}
    (h : a.suggestion.isEmpty = b.suggestion.isEmpty) :
    SameMarkup a.suggestionMarkup b.suggestionMarkup := by
  rw [suggestionMarkup, suggestionMarkup, h]
  split
  · exact .refl (by decide)
  · exact (SameMarkup.refl (by decide +kernel)).text _ _ (by decide)

theorem detailsMarkup_same {a b : Finding} (h : a.details.isEmpty = b.details.isEmpty) :
    SameMarkup a.detailsMarkup b.detailsMarkup := by
  rw [detailsMarkup, detailsMarkup, h]
  split
  · exact .refl (by decide)
  · exact (SameMarkup.refl (by decide +kernel)).text _ _ (by decide)

/-- The tag in which an explanation says how severe it is. -/
theorem isMarkup_severity (s : Severity) :
    IsMarkup ("<div class='explanation explanation-" ++ s.name ++ "'>" ++ "<b>") := by
  cases s <;> decide +kernel

/-- Two findings with the same parts are explained in the same markup. -/
theorem markup_same {lookup lookup' : Option ExampleLookup} {a b : Finding}
    (severity : a.severity = b.severity)
    (suggestion : a.suggestion.isEmpty = b.suggestion.isEmpty)
    (details : a.details.isEmpty = b.details.isEmpty)
    (examples : (examplesFor lookup a.kind).length = (examplesFor lookup' b.kind).length) :
    SameMarkup (a.markup lookup) (b.markup lookup') := by
  have closing : IsMarkup "</b></div>" := by decide +kernel
  have message := (SameMarkup.refl (isMarkup_severity b.severity)).text a.message b.message closing
  have parts := (message.append (suggestionMarkup_same suggestion)).append
    (detailsMarkup_same details)
  unfold markup
  rw [severity]
  exact parts.append (examplesMarkup_same examples)

theorem isMarkup_markup (lookup : Option ExampleLookup) (a : Finding) :
    IsMarkup (a.markup lookup) := by
  have same : SameMarkup (a.markup lookup) (a.markup lookup) := markup_same rfl rfl rfl rfl
  exact same.left

theorem isEmpty_eq_iff {s t : String} : s.isEmpty = t.isEmpty ↔ (s = "" ↔ t = "") := by
  rw [Bool.eq_iff_iff, String.isEmpty_iff, String.isEmpty_iff]

/-- **No text becomes markup.** In every explanation all tags are closed and every ampersand
begins one of the six references. Two findings of one severity, with and without suggestion and
details alike, and with as many examples as each other, are explained in the same tags, whatever
their texts, their kinds and their examples say. -/
theorem markup_without_text :
    (∀ (lookup : Option ExampleLookup) (a : Finding), EndsOutside (a.markup lookup) ∧
      ∀ before after, (a.markup lookup).toList = before ++ '&' :: after →
        ∃ e ∈ references, e.toList <+: '&' :: after) ∧
    ∀ (lookup lookup' : Option ExampleLookup) (a b : Finding), a.severity = b.severity →
      (a.suggestion = "" ↔ b.suggestion = "") → (a.details = "" ↔ b.details = "") →
      (examplesFor lookup a.kind).length = (examplesFor lookup' b.kind).length →
      tags (a.markup lookup) = tags (b.markup lookup') := by
  constructor
  · intro lookup a
    obtain ⟨closed, referenced⟩ := isMarkup_markup lookup a
    exact ⟨closed, fun before after split => referenced after ⟨before, split.symm⟩⟩
  · intro lookup lookup' a b severity suggestion details examples
    exact (markup_same severity (isEmpty_eq_iff.mpr suggestion) (isEmpty_eq_iff.mpr details)
      examples).tags_eq

/-- A message, a suggestion and an example that look like markup give the tags of harmless ones. -/
theorem markup_without_text_hostile :
    let a : Finding :=
      ⟨.point ⟨1, 1⟩, .error, "<script>alert(1)</script>", "", "</div>&amp;<hr>", "html"⟩
    let b : Finding := ⟨.point ⟨7, 2⟩, .error, "Too long.", "", "Split it.", "length"⟩
    let hostile : ExampleLookup := fun kind => .ok (some [⟨kind, "", "<hr>", "&lt;", "'>", "<"⟩])
    let harmless : ExampleLookup := fun kind => .ok (some [⟨kind, "", "a b", "", "a", ""⟩])
    (a.severity = b.severity ∧ (a.suggestion = "" ↔ b.suggestion = "") ∧
      (a.details = "" ↔ b.details = "") ∧
      (examplesFor (some hostile) a.kind).length = (examplesFor (some harmless) b.kind).length) ∧
    tags (a.markup (some hostile)) = tags (b.markup (some harmless)) := by
  intro a b hostile harmless
  have suggestion : a.suggestion = "" ↔ b.suggestion = "" := by decide
  have details : a.details = "" ↔ b.details = "" := by decide
  exact ⟨⟨rfl, suggestion, details, rfl⟩,
    markup_without_text.2 (some hostile) (some harmless) a b rfl suggestion details rfl⟩

end Finding
end LiveLint
