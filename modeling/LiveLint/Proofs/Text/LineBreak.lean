import LiveLint.Text.LineBreak
import Mathlib.Data.List.Basic

/-! # Unified line breaks

A linter gets a document with its line breaks unified. Where each line ends in LF, CR LF or LF CR,
the lines are kept, so a line number means the same to the linter and in the document. That is not
a matter of one line break at a time: an LF is paired with the CR of the line break of an empty
line behind it. The LF that is left over then ends that line. -/

namespace LiveLint.Text

/-- What ends a line of a document. -/
inductive LineBreak where
  | lf
  | crLf
  | lfCr
  deriving DecidableEq

def LineBreak.chars : LineBreak → List Char
  | lf => ['\n']
  | crLf => ['\r', '\n']
  | lfCr => ['\n', '\r']

/-- The text of lines that end in line breaks of their own, and of a last line. -/
def joinLines : List (String × LineBreak) → String → String
  | [], last => last
  | (l, b) :: rest, last => l ++ String.ofList b.chars ++ joinLines rest last

/-- All lines of such a text. -/
def linesOf (ended : List (String × LineBreak)) (last : String) : List String :=
  ended.map (·.1) ++ [last]

/-- A text within one line. -/
def Unbroken (s : String) : Prop := '\r' ∉ s.toList ∧ '\n' ∉ s.toList

instance (s : String) : Decidable (Unbroken s) := inferInstanceAs (Decidable (_ ∧ _))

/-- Whether a character is part of a line. -/
def isInLine (c : Char) : Bool := c != '\r' && c != '\n'

/-! ## Unifying from the front -/

theorem unifyBreakChars_cons {c : Char} {r : List Char} (other : c ≠ '\r')
    (unpaired : c = '\n' → r.head? ≠ some '\r') :
    unifyBreakChars (c :: r) = c :: unifyBreakChars r := by
  rw [unifyBreakChars]
  · intro _ cr _
    exact other cr
  · rintro r' rfl rfl
    exact unpaired rfl rfl
  · exact other

theorem unifyBreakChars_line {l : List Char} (cr : '\r' ∉ l) (lf : '\n' ∉ l) (r : List Char) :
    unifyBreakChars (l ++ r) = l ++ unifyBreakChars r := by
  induction l with
  | nil => rfl
  | cons c l ih =>
    rw [List.mem_cons, not_or] at cr lf
    rw [List.cons_append, unifyBreakChars_cons (Ne.symm cr.1) fun e => absurd e.symm lf.1,
      ih cr.2 lf.2]
    rfl

theorem unifyBreakChars_eq_self {cs : List Char} (cr : '\r' ∉ cs) : unifyBreakChars cs = cs := by
  induction cs with
  | nil => rfl
  | cons c r ih =>
    rw [List.mem_cons, not_or] at cr
    rw [unifyBreakChars_cons (Ne.symm cr.1) fun _ first => cr.2 (List.mem_of_head? first), ih cr.2]

/-! ## Any text -/

theorem cr_not_mem_unifyBreakChars (cs : List Char) : '\r' ∉ unifyBreakChars cs := by
  fun_induction unifyBreakChars cs with
  | case1 r ih | case2 r ih | case3 r _ ih => simpa using ih
  | case4 c r crLf lfCr cr ih => simpa using ⟨fun e => cr e.symm, ih⟩
  | case5 => simp

theorem unifyBreakChars_inLine (cs : List Char) :
    (unifyBreakChars cs).filter isInLine = cs.filter isInLine := by
  fun_induction unifyBreakChars cs with
  | case1 r ih | case2 r ih | case3 r _ ih => simpa [isInLine] using ih
  | case4 c r crLf lfCr cr ih => rw [List.filter_cons, ih, List.filter_cons]
  | case5 => rfl

theorem cr_not_mem_unifyBreaks (s : String) : '\r' ∉ (unifyBreaks s).toList := by
  rw [unifyBreaks, String.toList_ofList]
  exact cr_not_mem_unifyBreakChars s.toList

theorem unifyBreaks_inLine (s : String) :
    (unifyBreaks s).toList.filter isInLine = s.toList.filter isInLine := by
  rw [unifyBreaks, String.toList_ofList, unifyBreakChars_inLine]

/-- Exactly the texts without CR stay as they are. -/
theorem unifyBreaks_eq_self_iff {s : String} : unifyBreaks s = s ↔ '\r' ∉ s.toList := by
  constructor
  · intro same
    rw [← same]
    exact cr_not_mem_unifyBreaks s
  · intro cr
    rw [unifyBreaks, unifyBreakChars_eq_self cr, String.ofList_toList]

/-! ## Lines -/

section

variable {ended : List (String × LineBreak)} {last : String}

@[simp] theorem linesOf_nil : linesOf [] last = [last] := rfl

@[simp] theorem linesOf_cons (l : String) (b : LineBreak) :
    linesOf ((l, b) :: ended) last = l :: linesOf ended last := rfl

theorem toList_joinLines_cons (l : String) (b : LineBreak) :
    (joinLines ((l, b) :: ended) last).toList =
      l.toList ++ (b.chars ++ (joinLines ended last).toList) := by
  simp [joinLines]

/-- An LF in front of lines makes one line break more, whichever characters are paired. -/
theorem unifyBreakChars_lf_joinLines (unbroken : ∀ l ∈ linesOf ended last, Unbroken l) :
    unifyBreakChars ('\n' :: (joinLines ended last).toList) =
      '\n' :: unifyBreakChars (joinLines ended last).toList := by
  induction ended with
  | nil =>
    have cr : '\r' ∉ last.toList := (unbroken last (by simp)).1
    exact unifyBreakChars_cons (by decide) fun _ first => cr (List.mem_of_head? first)
  | cons first rest ih =>
    obtain ⟨l, b⟩ := first
    have cr : '\r' ∉ l.toList := (unbroken l (by simp)).1
    rw [toList_joinLines_cons]
    cases filled : l.toList with
    | cons c cs =>
      refine unifyBreakChars_cons (by decide) fun _ head => ?_
      rw [filled] at cr
      exact cr (List.mem_cons.mpr (.inl (Option.some.inj head).symm))
    | nil =>
      cases b with
      | lf | lfCr => exact unifyBreakChars_cons (by decide) fun _ => by simp [LineBreak.chars]
      | crLf =>
        -- the LF in front takes the CR, and the LF behind it is in front of the other lines
        show '\n' :: unifyBreakChars ('\n' :: (joinLines rest last).toList) = _
        rw [ih fun l hl => unbroken l (List.mem_cons_of_mem _ hl)]
        rfl

theorem unifyBreakChars_joinLines (unbroken : ∀ l ∈ linesOf ended last, Unbroken l) :
    unifyBreakChars (joinLines ended last).toList =
      ("\n".intercalate (linesOf ended last)).toList := by
  induction ended with
  | nil =>
    rw [linesOf_nil, String.intercalate_singleton]
    exact unifyBreakChars_eq_self (unbroken last (by simp)).1
  | cons first rest ih =>
    obtain ⟨l, b⟩ := first
    obtain ⟨cr, lf⟩ := unbroken l (by simp)
    have unbroken' : ∀ l ∈ linesOf rest last, Unbroken l := fun l hl =>
      unbroken l (List.mem_cons_of_mem _ hl)
    have ends : unifyBreakChars (b.chars ++ (joinLines rest last).toList) =
        '\n' :: unifyBreakChars (joinLines rest last).toList := by
      cases b with
      | lf => exact unifyBreakChars_lf_joinLines unbroken'
      | crLf | lfCr => rfl
    rw [toList_joinLines_cons, unifyBreakChars_line cr lf, ends, ih unbroken', linesOf_cons,
      String.intercalate_cons_of_ne_nil (by simp [linesOf])]
    simp

theorem unifyBreaks_joinLines (unbroken : ∀ l ∈ linesOf ended last, Unbroken l) :
    unifyBreaks (joinLines ended last) = "\n".intercalate (linesOf ended last) := by
  rw [unifyBreaks, unifyBreakChars_joinLines unbroken, String.ofList_toList]

theorem documentLinesFrom_line {l : List Char} (lf : '\n' ∉ l) (line r : List Char) :
    documentLinesFrom line (l ++ r) = documentLinesFrom (l.reverse ++ line) r := by
  induction l generalizing line with
  | nil => rfl
  | cons c l ih =>
    rw [List.mem_cons, not_or] at lf
    rw [List.cons_append, documentLinesFrom, if_neg (Ne.symm lf.1), ih lf.2, List.reverse_cons,
      List.append_assoc]
    rfl

/-- Lines that are joined with LF are the lines of the document. -/
theorem documentLines_intercalate {lines : List String} (nonempty : lines ≠ [])
    (lf : ∀ l ∈ lines, '\n' ∉ l.toList) : documentLines ("\n".intercalate lines) = lines := by
  rw [documentLines]
  induction lines with
  | nil => exact absurd rfl nonempty
  | cons l rest ih =>
    have within : '\n' ∉ l.toList := lf l List.mem_cons_self
    by_cases more : rest = []
    · subst more
      have last := documentLinesFrom_line within [] []
      rw [List.append_nil, List.append_nil] at last
      simp [last, documentLinesFrom]
    · rw [String.intercalate_cons_of_ne_nil more, String.toList_append, String.toList_append,
        List.append_assoc, documentLinesFrom_line within]
      show ((l.toList.reverse ++ []).reverse ::
        documentLinesFrom [] ("\n".intercalate rest).toList).map String.ofList = _
      rw [List.map_cons, ih more fun l hl => lf l (List.mem_cons_of_mem _ hl)]
      simp

end

end LiveLint.Text
