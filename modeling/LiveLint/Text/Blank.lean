/-! Blank characters and trimming. A blank is a white-space character of Unicode
or one of the four information separators; `trim` takes the blanks off both ends
of a text and leaves those inside it. -/

namespace LiveLint.Text

def isBlank (c : Char) : Bool :=
  let n := c.toNat
  (9 ≤ n && n ≤ 13) || (0x1c ≤ n && n ≤ 0x20) || n == 0x85 || n == 0xa0 || n == 0x1680 ||
    (0x2000 ≤ n && n ≤ 0x200a) || n == 0x2028 || n == 0x2029 || n == 0x202f || n == 0x205f ||
    n == 0x3000

/-- Drop the longest ends on which `p` holds. -/
def trimBy (p : Char → Bool) (cs : List Char) : List Char :=
  ((cs.dropWhile p).reverse.dropWhile p).reverse

def trim (s : String) : String := String.ofList (trimBy isBlank s.toList)

/-- Trimmed by a predicate: empty, or with ends that the predicate refuses. -/
def IsTrimmedBy (p : Char → Bool) (cs : List Char) : Prop :=
  (∀ c, cs.head? = some c → p c = false) ∧ (∀ c, cs.getLast? = some c → p c = false)

theorem trimBy_eq_self {p : Char → Bool} {cs : List Char} (h : IsTrimmedBy p cs) :
    trimBy p cs = cs := by
  have drop_self : ∀ l : List Char, (∀ c, l.head? = some c → p c = false) →
      l.dropWhile p = l := by
    intro l hl
    cases l with
    | nil => rfl
    | cons a r => rw [List.dropWhile_cons_of_neg]; simpa using hl a rfl
  rw [trimBy, drop_self cs h.1, drop_self, List.reverse_reverse]
  intro c hc
  exact h.2 c (by simpa [List.head?_reverse] using hc)

end LiveLint.Text
