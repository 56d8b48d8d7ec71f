import Mathlib.Data.List.Basic

/-! The words of one simple command by the quoting rules of the POSIX shell,
and the quoting of one word. A text with an operator or a newline outside
quotes, with an expansion or a comment is no such command, nor is one whose
quotes do not close. -/
namespace CommandLine

variable {Char : Type}

/-- The characters a shell gives a meaning to. `operator` are those that mean
something outside quotes besides, `expanding` those that do inside double
quotes. -/
structure Shell (Char : Type) where
  blank : Char → Bool
  singleQuote : Char
  doubleQuote : Char
  backslash : Char
  newline : Char
  operator : Char → Bool
  expanding : Char → Bool

/-- How the next character is read. -/
inductive Quoting where
  | none
  | escaped
  | single
  | double
  | doubleEscaped

/-- A word that has begun, with one more character. -/
def extend (word : Option (List Char)) (c : Char) : Option (List Char) := some (word.getD [] ++ [c])

variable [DecidableEq Char] (s : Shell Char)

/-- The words of the rest of a text, after a part of a word if one has begun. -/
def wordsFrom : Quoting → Option (List Char) → List Char → Option (List (List Char))
  | .none, word, [] => some word.toList
  | .escaped, _, [] | .single, _, [] | .double, _, [] | .doubleEscaped, _, [] => none
  | .none, word, c :: rest =>
      if s.blank c then (wordsFrom .none none rest).map (word.toList ++ ·)
      else if c = s.singleQuote then wordsFrom .single (some (word.getD [])) rest
      else if c = s.doubleQuote then wordsFrom .double (some (word.getD [])) rest
      else if c = s.backslash then wordsFrom .escaped word rest
      else if c = s.newline ∨ s.operator c then none
      else wordsFrom .none (extend word c) rest
  | .escaped, word, c :: rest =>
      if c = s.newline then wordsFrom .none word rest
      else wordsFrom .none (extend word c) rest
  | .single, word, c :: rest =>
      if c = s.singleQuote then wordsFrom .none word rest
      else wordsFrom .single (extend word c) rest
  | .double, word, c :: rest =>
      if c = s.doubleQuote then wordsFrom .none word rest
      else if c = s.backslash then wordsFrom .doubleEscaped word rest
      else if s.expanding c then none
      else wordsFrom .double (extend word c) rest
  | .doubleEscaped, word, c :: rest =>
      if c = s.newline then wordsFrom .double word rest
      else if c = s.doubleQuote ∨ c = s.backslash ∨ s.expanding c then
        wordsFrom .double (extend word c) rest
      else wordsFrom .double (extend (extend word s.backslash) c) rest

def words (text : List Char) : Option (List (List Char)) := wordsFrom s .none none text

/-- A character that stands for itself outside quotes. -/
def Literal (c : Char) : Prop :=
  s.blank c = false ∧ c ≠ s.singleQuote ∧ c ≠ s.doubleQuote ∧ c ≠ s.backslash ∧
    c ≠ s.newline ∧ s.operator c = false

instance (c : Char) : Decidable (Literal s c) :=
  inferInstanceAs (Decidable (_ ∧ _ ∧ _ ∧ _ ∧ _ ∧ _))

/-- The text between single quotes, with each single quote in it set in double
quotes of its own. -/
def quotedBody (text : List Char) : List Char :=
  text.flatMap fun c =>
    if c = s.singleQuote then
      [s.singleQuote, s.doubleQuote, s.singleQuote, s.doubleQuote, s.singleQuote]
    else [c]

/-- A word as it is, if it is of safe characters only, and else in quotes. -/
def quote (safe : Char → Bool) (text : List Char) : List Char :=
  if text = [] then [s.singleQuote, s.singleQuote]
  else if text.all safe then text
  else s.singleQuote :: quotedBody s text ++ [s.singleQuote]

/-- What quoting needs of a shell: the quotes are told apart, and from blanks
and expansions. -/
structure Shell.Quotes : Prop where
  distinct : s.doubleQuote ≠ s.singleQuote
  single_not_blank : s.blank s.singleQuote = false
  double_not_blank : s.blank s.doubleQuote = false
  single_not_backslash : s.singleQuote ≠ s.backslash
  single_not_expanding : s.expanding s.singleQuote = false

variable {s} {c : Char} {text rest : List Char} {word : Option (List Char)}

section Pieces

theorem wordsFrom_literal (h : ∀ c ∈ text, Literal s c) (hSome : text ≠ [] ∨ word ≠ none) :
    wordsFrom s .none word (text ++ rest) =
      wordsFrom s .none (some (word.getD [] ++ text)) rest := by
  induction text generalizing word with
  | nil =>
      obtain ⟨begun, rfl⟩ := Option.ne_none_iff_exists'.mp (hSome.resolve_left (by simp))
      simp
  | cons c text ih =>
      obtain ⟨hBlank, hSingle, hDouble, hBackslash, hNewline, hOperator⟩ := h c List.mem_cons_self
      have hRest : wordsFrom s .none (extend word c) (text ++ rest) =
          wordsFrom s .none (some ((extend word c).getD [] ++ text)) rest :=
        ih (fun d hMem => h d (List.mem_cons_of_mem _ hMem)) (.inr (by simp [extend]))
      rw [List.cons_append, wordsFrom]
      simp only [hBlank, hSingle, hDouble, hBackslash, hNewline, hOperator, Bool.false_eq_true,
        or_self, if_false]
      rw [hRest]
      simp [extend]

theorem wordsFrom_quotedBody (hQuotes : s.Quotes) (begun : List Char) :
    wordsFrom s .single (some begun) (quotedBody s text ++ s.singleQuote :: rest) =
      wordsFrom s .none (some (begun ++ text)) rest := by
  induction text generalizing begun with
  | nil => simp [quotedBody, wordsFrom]
  | cons c text ih =>
      have hStep : quotedBody s (c :: text) =
          (if c = s.singleQuote then
            [s.singleQuote, s.doubleQuote, s.singleQuote, s.doubleQuote, s.singleQuote]
          else [c]) ++ quotedBody s text := rfl
      rw [hStep]
      by_cases hQuote : c = s.singleQuote
      · subst hQuote
        have hRest := ih (begun ++ [s.singleQuote])
        simp only [if_true, List.cons_append, List.nil_append, wordsFrom, hQuotes.double_not_blank,
          hQuotes.single_not_blank, hQuotes.distinct, hQuotes.distinct.symm,
          hQuotes.single_not_backslash, hQuotes.single_not_expanding, Bool.false_eq_true, if_false,
          Option.getD_some, extend]
        simpa using hRest
      · have hRest := ih (begun ++ [c])
        simp only [if_neg hQuote, List.cons_append, List.nil_append, wordsFrom, extend,
          Option.getD_some]
        simpa using hRest

end Pieces

section Words

theorem words_literal (hSome : text ≠ []) (h : ∀ c ∈ text, Literal s c) :
    words s text = some [text] := by
  have hText : wordsFrom s .none none (text ++ []) = wordsFrom s .none (some ([] ++ text)) [] :=
    wordsFrom_literal h (.inl hSome)
  simpa [words, wordsFrom] using hText

/-- A quoted word is read back as the word it was, whatever is in it. -/
theorem words_quote (hQuotes : s.Quotes) {safe : Char → Bool}
    (hSafe : ∀ c, safe c = true → Literal s c) (text : List Char) :
    words s (quote s safe text) = some [text] := by
  unfold quote
  split
  · next hEmpty =>
      subst hEmpty
      simp [words, wordsFrom, hQuotes.single_not_blank]
  · next hSome =>
      split
      · next hAll =>
          exact words_literal hSome fun c hMem => hSafe c (List.all_eq_true.mp hAll c hMem)
      · have hBody : wordsFrom s .single (some []) (quotedBody s text ++ [s.singleQuote]) =
            wordsFrom s .none (some ([] ++ text)) [] := wordsFrom_quotedBody hQuotes []
        rw [words, List.cons_append, wordsFrom]
        simp only [hQuotes.single_not_blank, Bool.false_eq_true, if_false, if_true]
        rw [Option.getD_none, hBody]
        rfl

/-- By the recursion of the reader: whatever it is in the middle of is over
before the blank, since the text is complete. -/
theorem wordsFrom_append_blank {q : Quoting} {read : List (List Char)} (hBlank : s.blank c = true)
    (h : wordsFrom s q word text = some read) :
    wordsFrom s q word (text ++ c :: rest) = (words s rest).map (read ++ ·) := by
  induction text generalizing q word read with
  | nil =>
      cases q with
      | none =>
          obtain rfl := Option.some.inj h
          simp [wordsFrom, words, hBlank]
      | _ => cases h
  | cons d text ih =>
      rw [List.cons_append]
      cases q with
      | none =>
          simp only [wordsFrom] at h ⊢
          split_ifs at h ⊢ with hD
          · obtain ⟨later, hLater, rfl⟩ := Option.map_eq_some_iff.mp h
            rw [ih hLater, Option.map_map]
            simp [Function.comp_def]
          · exact ih h
          · exact ih h
          · exact ih h
          · exact ih h
      | escaped =>
          simp only [wordsFrom] at h ⊢
          split_ifs at h ⊢
          · exact ih h
          · exact ih h
      | single =>
          simp only [wordsFrom] at h ⊢
          split_ifs at h ⊢
          · exact ih h
          · exact ih h
      | double =>
          simp only [wordsFrom] at h ⊢
          split_ifs at h ⊢
          · exact ih h
          · exact ih h
          · exact ih h
      | doubleEscaped =>
          simp only [wordsFrom] at h ⊢
          split_ifs at h ⊢
          · exact ih h
          · exact ih h
          · exact ih h

/-- Two complete commands with a blank between them have the words of both. -/
theorem words_append_blank {read : List (List Char)} (hBlank : s.blank c = true)
    (h : words s text = some read) :
    words s (text ++ c :: rest) = (words s rest).map (read ++ ·) :=
  wordsFrom_append_blank hBlank h

/-- Parts of a line, each complete, and the words of all of them. -/
inductive Reads (s : Shell Char) : List (List Char) → List (List Char) → Prop
  | nil : Reads s [] []
  | cons {part : List Char} {parts read reads : List (List Char)}
      (hPart : words s part = some read) (hParts : Reads s parts reads) :
      Reads s (part :: parts) (read ++ reads)

theorem Reads.one {part : List Char} {read : List (List Char)} (h : words s part = some read) :
    Reads s [part] read := by
  simpa using Reads.cons h .nil

theorem Reads.append {parts parts' reads reads' : List (List Char)} (h : Reads s parts reads)
    (h' : Reads s parts' reads') : Reads s (parts ++ parts') (reads ++ reads') := by
  induction h with
  | nil => exact h'
  | cons hPart hParts ih =>
      rw [List.append_assoc]
      exact .cons hPart ih

/-- A line joined from parts has the words of all of them, in their order. -/
theorem words_join (hBlank : s.blank c = true) {parts reads : List (List Char)}
    (h : Reads s parts reads) : words s ([c].intercalate parts) = some reads := by
  induction h with
  | nil => rfl
  | @cons part parts read reads hPart hParts ih =>
      cases hParts with
      | nil => simpa using hPart
      | cons hNext hParts =>
          rw [List.intercalate_cons_cons, List.append_assoc, List.singleton_append,
            words_append_blank hBlank hPart, ih]
          rfl

end Words

end CommandLine
