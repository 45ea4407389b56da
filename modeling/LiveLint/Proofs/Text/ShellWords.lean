import LiveLint.Text.ShellWords

/-! # Command lines as a grammar

A command line consists of words with spaces between them, and a word of pieces: characters, escaped
characters and quoted texts. Splitting finds the words of exactly the texts that are command
lines. All others are badly quoted: they end inside a quoted text or after a backslash. -/

namespace LiveLint

/-- Why a text is no command line. -/
def Fault.IsBadQuoting (f : Fault) : Prop := f = .openQuotation ∨ f = .openEscape

namespace Text

/-- The text between double quotes and what it stands for: a backslash escapes quotes and
backslashes, before other characters it stands for itself. -/
inductive DoubleQuoted : List Char → List Char → Prop
  | nil : DoubleQuoted [] []
  | char {c : Char} {t w : List Char} (quote : c ≠ '"') (escape : c ≠ '\\')
      (rest : DoubleQuoted t w) : DoubleQuoted (c :: t) (c :: w)
  | escaped {c : Char} {t w : List Char} (special : c = '\\' ∨ c = '"')
      (rest : DoubleQuoted t w) : DoubleQuoted ('\\' :: c :: t) (c :: w)
  | backslash {c : Char} {t w : List Char} (special : ¬ (c = '\\' ∨ c = '"'))
      (rest : DoubleQuoted t w) : DoubleQuoted ('\\' :: c :: t) ('\\' :: c :: w)

/-- A piece of a word and what it stands for. -/
inductive WordPiece : List Char → List Char → Prop
  | char {c : Char} (space : isWordSpace c = false) (escape : c ≠ '\\')
      (quote : ¬ (c = '"' ∨ c = '\'')) : WordPiece [c] [c]
  | escaped (c : Char) : WordPiece ['\\', c] [c]
  | single {w : List Char} (inside : '\'' ∉ w) : WordPiece ('\'' :: (w ++ ['\''])) w
  | double {t w : List Char} (inside : DoubleQuoted t w) : WordPiece ('"' :: (t ++ ['"'])) w

/-- A word, as it is written and as it is read. -/
inductive Word : List Char → List Char → Prop
  | one {t w : List Char} (piece : WordPiece t w) : Word t w
  | more {t w u v : List Char} (piece : WordPiece t w) (rest : Word u v) :
      Word (t ++ u) (w ++ v)

/-- A command line and its words. -/
inductive CommandLine : List Char → List (List Char) → Prop
  | nil : CommandLine [] []
  | space {c : Char} {t : List Char} {ws : List (List Char)} (space : isWordSpace c = true)
      (rest : CommandLine t ws) : CommandLine (c :: t) ws
  | last {t w : List Char} (word : Word t w) : CommandLine t [w]
  | word {t w : List Char} {c : Char} {u : List Char} {ws : List (List Char)} (word : Word t w)
      (space : isWordSpace c = true) (rest : CommandLine u ws) :
      CommandLine (t ++ c :: u) (w :: ws)

attribute [local simp] shellWordsFrom

/-! ## Quoted texts -/

theorem doubleQuoted_read {t w : List Char} (h : DoubleQuoted t w) (read r : List Char) :
    shellWordsFrom (.quote '"') (some read) (t ++ '"' :: r) =
      shellWordsFrom .plain (some (w.reverse ++ read)) r := by
  induction h generalizing read with
  | nil => simp
  | char quote escape _ ih => simp [extendWord, quote, escape, ih]
  | escaped special _ ih =>
    have inQuotes : '\\' ≠ '"' := by decide
    simp [extendWord, special, inQuotes, ih]
  | backslash special _ ih =>
    have inQuotes : '\\' ≠ '"' := by decide
    simp [extendWord, special, inQuotes, ih]

theorem singleQuoted_read {w : List Char} (h : '\'' ∉ w) (read r : List Char) :
    shellWordsFrom (.quote '\'') (some read) (w ++ '\'' :: r) =
      shellWordsFrom .plain (some (w.reverse ++ read)) r := by
  induction w generalizing read with
  | nil => simp
  | cons c rest ih =>
    obtain ⟨quote, inside⟩ := not_or.mp (mt List.mem_cons.mpr h)
    simp [extendWord, Ne.symm quote, ih inside]

theorem singleQuoted_open {cs : List Char} (h : '\'' ∉ cs) (read : Option (List Char)) :
    shellWordsFrom (.quote '\'') read cs = .error .openQuotation := by
  induction cs generalizing read with
  | nil => rfl
  | cons c rest ih =>
    obtain ⟨quote, inside⟩ := not_or.mp (mt List.mem_cons.mpr h)
    simp [Ne.symm quote, ih inside]

/-- After double quotes were opened, they are closed, or splitting fails. -/
theorem doubleQuoted_cases : ∀ cs : List Char,
    (∃ t w r, DoubleQuoted t w ∧ cs = t ++ '"' :: r) ∨
      ∃ f, f.IsBadQuoting ∧ ∀ read, shellWordsFrom (.quote '"') read cs = .error f
  | [] => .inr ⟨.openQuotation, .inl rfl, fun _ => rfl⟩
  | c :: rest => by
    by_cases quote : c = '"'
    · subst quote
      exact .inl ⟨[], [], rest, .nil, rfl⟩
    by_cases escape : c = '\\'
    · subst escape
      cases rest with
      | nil => exact .inr ⟨.openEscape, .inr rfl, fun _ => rfl⟩
      | cons d after =>
        rcases doubleQuoted_cases after with ⟨t, w, r, inside, rfl⟩ | ⟨f, bad, fails⟩
        · by_cases special : d = '\\' ∨ d = '"'
          · exact .inl ⟨'\\' :: d :: t, _, r, .escaped special inside, rfl⟩
          · exact .inl ⟨'\\' :: d :: t, _, r, .backslash special inside, rfl⟩
        · exact .inr ⟨f, bad, fun read => by simp [fails]⟩
    · rcases doubleQuoted_cases rest with ⟨t, w, r, inside, rfl⟩ | ⟨f, bad, fails⟩
      · exact .inl ⟨c :: t, _, r, .char quote escape inside, rfl⟩
      · exact .inr ⟨f, bad, fun read => by simp [quote, escape, fails]⟩

/-! ## Words -/

theorem wordPiece_read {t w : List Char} (h : WordPiece t w) (read : Option (List Char))
    (r : List Char) : shellWordsFrom .plain read (t ++ r) =
      shellWordsFrom .plain (some (w.reverse ++ read.getD [])) r := by
  cases h with
  | char space escape quote => simp [extendWord, space, escape, quote]
  | escaped c => simp [extendWord, isWordSpace]
  | single inside =>
    rw [List.cons_append, List.append_assoc, List.singleton_append,
      ← singleQuoted_read inside]
    simp [isWordSpace]
  | double inside =>
    rw [List.cons_append, List.append_assoc, List.singleton_append,
      ← doubleQuoted_read inside]
    simp [isWordSpace]

theorem word_read {t w : List Char} (h : Word t w) (read : Option (List Char)) (r : List Char) :
    shellWordsFrom .plain read (t ++ r) =
      shellWordsFrom .plain (some (w.reverse ++ read.getD [])) r := by
  induction h generalizing read with
  | one piece => exact wordPiece_read piece read r
  | more piece _ ih => simp [List.append_assoc, wordPiece_read piece, ih]

/-- At the start of a word stands a piece, or splitting fails. -/
theorem wordPiece_cases (c : Char) (rest : List Char) (space : isWordSpace c = false) :
    (∃ t w r, WordPiece t w ∧ c :: rest = t ++ r ∧ r.length < (c :: rest).length) ∨
      ∃ f, f.IsBadQuoting ∧ ∀ read, shellWordsFrom .plain read (c :: rest) = .error f := by
  by_cases escape : c = '\\'
  · subst escape
    cases rest with
    | nil => exact .inr ⟨.openEscape, .inr rfl, fun _ => rfl⟩
    | cons d r => exact .inl ⟨_, _, r, .escaped d, rfl, by simp only [List.length_cons]; omega⟩
  by_cases double : c = '"'
  · subst double
    rcases doubleQuoted_cases rest with ⟨t, w, r, inside, rfl⟩ | ⟨f, bad, fails⟩
    · exact .inl ⟨_, _, r, .double inside, by simp, by simp; omega⟩
    · exact .inr ⟨f, bad, fun read => by simp [isWordSpace, fails]⟩
  by_cases single : c = '\''
  · subst single
    by_cases closed : '\'' ∈ rest
    · obtain ⟨w, r, rfl, inside⟩ := List.eq_append_cons_of_mem closed
      exact .inl ⟨_, _, r, .single inside, by simp, by simp; omega⟩
    · exact .inr ⟨.openQuotation, .inl rfl, fun read => by
        simp [isWordSpace, singleQuoted_open closed]⟩
  · exact .inl ⟨[c], [c], rest, .char space escape (not_or.mpr ⟨double, single⟩), rfl, by simp⟩

/-! ## Command lines -/

/-- The words of a command line are found. -/
theorem commandLine_read {cs : List Char} {ws : List (List Char)} (h : CommandLine cs ws) :
    shellWordsFrom .plain none cs = .ok ws := by
  induction h with
  | nil => rfl
  | space space _ ih => simp [space, ih, Except.map, closeWord]
  | last word =>
    simpa [closeWord] using word_read word none []
  | word word space _ ih =>
    rw [word_read word]
    simp [space, ih, Except.map, closeWord]

theorem CommandLine.piece {t w r : List Char} {ws : List (List Char)} (piece : WordPiece t w)
    (h : CommandLine r ws) : ∃ ws', CommandLine (t ++ r) ws' := by
  cases h with
  | nil =>
    rw [List.append_nil]
    exact ⟨_, .last (.one piece)⟩
  | space space rest => exact ⟨_, .word (.one piece) space rest⟩
  | last word => exact ⟨_, .last (.more piece word)⟩
  | word word space rest =>
    rw [← List.append_assoc]
    exact ⟨_, .word (.more piece word) space rest⟩

/-- Whether and how splitting fails does not depend on the word that was begun. -/
theorem shellWordsFrom_fault (mode : ShellMode) (cs : List Char) (read read' : Option (List Char)) :
    (shellWordsFrom mode read cs).map (fun _ => ()) =
      (shellWordsFrom mode read' cs).map fun _ => () := by
  induction cs generalizing mode read read' with
  | nil => cases mode <;> rfl
  | cons c rest ih =>
    cases mode with
    | plain =>
      simp only [shellWordsFrom]
      repeat' split
      · cases shellWordsFrom .plain none rest <;> rfl
      all_goals exact ih ..
    | quote mark =>
      simp only [shellWordsFrom]
      repeat' split
      all_goals exact ih ..
    | escape inQuotes => cases inQuotes <;> exact ih ..

theorem shellWordsFrom_error {mode : ShellMode} {cs : List Char} {f : Fault}
    {read : Option (List Char)} (h : shellWordsFrom mode read cs = .error f)
    (read' : Option (List Char)) : shellWordsFrom mode read' cs = .error f := by
  have fault := shellWordsFrom_fault mode cs read read'
  rw [h] at fault
  cases other : shellWordsFrom mode read' cs with
  | ok _ => rw [other] at fault; cases fault
  | error _ => rw [other] at fault; cases fault; rfl

/-- Every text is a command line, or it is badly quoted. -/
theorem commandLine_cases (cs : List Char) : (∃ ws, CommandLine cs ws) ∨
    ∃ f, f.IsBadQuoting ∧ shellWordsFrom .plain none cs = .error f := by
  induction length : cs.length using Nat.strongRecOn generalizing cs with
  | _ n ih =>
    subst length
    cases cs with
    | nil => exact .inl ⟨[], .nil⟩
    | cons c rest =>
      by_cases space : isWordSpace c = true
      · rcases ih rest.length (by simp) rest rfl with ⟨ws, line⟩ | ⟨f, bad, fails⟩
        · exact .inl ⟨ws, .space space line⟩
        · exact .inr ⟨f, bad, by simp [space, fails, Except.map]⟩
      · rcases wordPiece_cases c rest (Bool.eq_false_iff.mpr space) with
          ⟨t, w, r, piece, split, shorter⟩ | ⟨f, bad, fails⟩
        · rw [split]
          rcases ih r.length shorter r rfl with ⟨ws, line⟩ | ⟨f, bad, fails⟩
          · exact .inl (line.piece piece)
          · refine .inr ⟨f, bad, ?_⟩
            rw [wordPiece_read piece]
            exact shellWordsFrom_error fails _
        · exact .inr ⟨f, bad, fails none⟩

theorem commandLine_iff {cs : List Char} {ws : List (List Char)} :
    CommandLine cs ws ↔ shellWordsFrom .plain none cs = .ok ws := by
  constructor
  · exact commandLine_read
  · intro h
    obtain ⟨ws', line⟩ | ⟨f, -, fails⟩ := commandLine_cases cs
    · rw [commandLine_read line] at h
      exact Except.ok.inj h ▸ line
    · rw [fails] at h
      cases h

/-- Splitting finds the words of command lines, and of nothing else. -/
theorem shellWords_ok_iff {s : String} {words : List String} :
    shellWords s = .ok words ↔ ∃ ws, CommandLine s.toList ws ∧ words = ws.map String.ofList := by
  simp only [commandLine_iff, shellWords]
  constructor
  · intro h
    cases split : shellWordsFrom .plain none s.toList with
    | ok ws => rw [split] at h; exact ⟨ws, rfl, (Except.ok.inj h).symm⟩
    | error f => rw [split] at h; cases h
  · rintro ⟨ws, split, rfl⟩
    rw [split]
    rfl

/-- A text that is no command line is badly quoted. -/
theorem shellWords_error {s : String} (h : ∀ ws, ¬ CommandLine s.toList ws) :
    ∃ f, f.IsBadQuoting ∧ shellWords s = .error f := by
  obtain ⟨ws, line⟩ | ⟨f, bad, fails⟩ := commandLine_cases s.toList
  · exact absurd line (h ws)
  · exact ⟨f, bad, by rw [shellWords, fails]; rfl⟩

end Text
end LiveLint
