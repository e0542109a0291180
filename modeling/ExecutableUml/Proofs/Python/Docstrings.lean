import ExecutableUml.Proofs.Python.LiteralReader
import ExecutableUml.Python.ClassModule
import Mathlib.Data.List.Induction

/-! Docstrings. Backslashes and three quotes in a row are escaped, so of a run of quotes up to two
stay as they are. Inside a text they do no harm. At its end they make up a closing mark with the
quotes behind them, and as many of these are left over. -/

namespace ExecutableUml

namespace Python

open Text

variable {named : String → Option Char}

section Runs

variable {c d : Char}

theorem endRun_append_cons (h : d ≠ c) (a s : List Char) :
    endRun c (a ++ d :: s) = endRun c s := by
  induction s using List.reverseRecOn with
  | nil =>
    rw [endRun_concat, if_neg h]
    rfl
  | append_singleton s e ih =>
    rw [← List.cons_append, ← List.append_assoc, endRun_concat, endRun_concat, ih]

theorem endRun_cons_of_ne (h : d ≠ c) (s : List Char) : endRun c (d :: s) = endRun c s :=
  endRun_append_cons h [] s

theorem endRun_append_replicate (c : Char) (a : List Char) (n : Nat) :
    endRun c (a ++ List.replicate n c) = endRun c a + n := by
  induction n with
  | zero => simp
  | succ n ih =>
    rw [List.replicate_succ', ← List.append_assoc, endRun_concat, if_pos rfl, ih, Nat.add_assoc]

theorem endRun_replicate (c : Char) (n : Nat) : endRun c (List.replicate n c) = n := by
  simp [endRun]

/-- A text is a run of one character, or another character stands in it. -/
theorem run_or_other (c : Char) (s : List Char) :
    (∃ n, s = List.replicate n c) ∨ ∃ a d b, d ≠ c ∧ s = a ++ d :: b := by
  by_cases h : ∀ d ∈ s, d = c
  · exact Or.inl ⟨s.length, List.eq_replicate_of_mem h⟩
  · obtain ⟨d, hd, hne⟩ : ∃ d ∈ s, d ≠ c := by simpa using h
    obtain ⟨a, b, rfl⟩ := List.append_of_mem hd
    exact Or.inr ⟨a, d, b, hne, rfl⟩

/-- A run at the start of a text ends before any other character. -/
theorem run_isPrefix (h : d ≠ c) {n : Nat} {a b : List Char}
    (hrun : List.replicate n c <+: a ++ d :: b) : List.replicate n c <+: a := by
  induction a generalizing n with
  | nil =>
    cases n with
    | zero => exact List.nil_prefix
    | succ n =>
      rw [List.replicate_succ, List.nil_append, List.cons_prefix_cons] at hrun
      exact absurd hrun.1.symm h
  | cons e a ih =>
    cases n with
    | zero => exact List.nil_prefix
    | succ n =>
      rw [List.replicate_succ, List.cons_append, List.cons_prefix_cons] at hrun
      rw [List.replicate_succ, List.cons_prefix_cons]
      exact ⟨hrun.1, ih hrun.2⟩

/-- A run that a shorter one does not fill goes on with the same character. -/
theorem head_of_run_isPrefix {k n : Nat} {b : List Char} (hk : k < n)
    (h : List.replicate n c <+: List.replicate k c ++ b) : b.head? = some c := by
  obtain ⟨m, rfl⟩ := Nat.exists_eq_add_of_lt hk
  rw [Nat.add_assoc, ← List.replicate_append_replicate, List.prefix_append_right_inj,
    List.replicate_succ] at h
  obtain ⟨rest, rfl⟩ := h
  rfl

/-- A text whose image starts with the character starts with it itself, and so on behind it. -/
def ReflectsHead (c : Char) (f : List Char → List Char) : Prop :=
  ∀ s rest, f s = c :: rest → ∃ s', s = c :: s' ∧ f s' = rest

/-- A map that reflects the head of texts makes no run at their start longer. -/
theorem ReflectsHead.run_isPrefix_of {f : List Char → List Char} (hf : ReflectsHead c f) {n : Nat}
    {s : List Char} (h : List.replicate n c <+: f s) : List.replicate n c <+: s := by
  induction n generalizing s with
  | zero => exact List.nil_prefix
  | succ n ih =>
    rw [List.replicate_succ] at h ⊢
    obtain ⟨rest, hrest⟩ := h
    obtain ⟨s, rfl, hs⟩ := hf _ _ hrest.symm
    exact List.cons_prefix_cons.2 ⟨rfl, ih ⟨rest, hs.symm⟩⟩

/-- Every text ends with as many of a character as its last run has. -/
theorem endRun_split (c : Char) (s : List Char) :
    ∃ a, s = a ++ List.replicate (endRun c s) c ∧ endRun c a = 0 := by
  induction s using List.reverseRecOn with
  | nil => exact ⟨[], rfl, rfl⟩
  | append_singleton s e ih =>
    rw [endRun_concat]
    split
    · rename_i he
      obtain ⟨a, hs, ha⟩ := ih
      refine ⟨a, ?_, ha⟩
      rw [List.replicate_succ', ← List.append_assoc, ← hs, he]
    · rename_i he
      exact ⟨s ++ [e], by simp, by rw [endRun_concat, if_neg he]⟩

end Runs

def threeQuotes : List Char := List.replicate 3 '"'

def escapedQuotes : List Char := ['\\', '"', '\\', '"', '\\', '"']

/-- A text inside a docstring, escaped in one pass. -/
def docChars : List Char → List Char
  | '"' :: '"' :: '"' :: s => escapedQuotes ++ docChars s
  | '\\' :: s => '\\' :: '\\' :: docChars s
  | c :: s => c :: docChars s
  | [] => []

theorem docChars_quotes (s : List Char) :
    docChars (threeQuotes ++ s) = escapedQuotes ++ docChars s := rfl

theorem docChars_backslash (s : List Char) :
    docChars ('\\' :: s) = '\\' :: '\\' :: docChars s := rfl

theorem docChars_cons {c : Char} {s : List Char} (hc : c ≠ '\\')
    (hquotes : ¬ threeQuotes <+: c :: s) : docChars (c :: s) = c :: docChars s := by
  rw [docChars]
  · rintro s rfl rfl
    exact hquotes ⟨s, rfl⟩
  · exact hc

/-- Induction along the escaping of a text. -/
@[elab_as_elim]
theorem docChars_induction {motive : List Char → Prop} (nil : motive [])
    (quotes : ∀ s, motive s → motive (threeQuotes ++ s))
    (backslash : ∀ s, motive s → motive ('\\' :: s))
    (other : ∀ c s, c ≠ '\\' → ¬ threeQuotes <+: c :: s → motive s → motive (c :: s))
    (s : List Char) : motive s := by
  induction s using docChars.induct with
  | case1 s ih => exact quotes s ih
  | case2 s ih => exact backslash s ih
  | case3 c s hquotes hc ih =>
    refine other c s hc ?_ ih
    rintro ⟨rest, hrest⟩
    obtain ⟨rfl, rfl⟩ := List.cons.inj hrest
    exact hquotes rest rfl rfl
  | case4 => exact nil

theorem not_quotes_isPrefix {c : Char} (h : c ≠ '"') (s : List Char) :
    ¬ threeQuotes <+: c :: s := by
  intro hquotes
  exact h (List.cons_prefix_cons.1 hquotes).1.symm

theorem quotes_isPrefix_iff {s : List Char} :
    threeQuotes <+: '"' :: s ↔ List.replicate 2 '"' <+: s := by
  rw [threeQuotes, List.replicate_succ, List.cons_prefix_cons]
  exact and_iff_right rfl

theorem ReflectsHead.not_quotes {f : List Char → List Char} (hf : ReflectsHead '"' f) {c : Char}
    {s : List Char} (h : ¬ threeQuotes <+: c :: s) : ¬ threeQuotes <+: c :: f s := by
  intro hquotes
  obtain rfl : '"' = c := (List.cons_prefix_cons.1 hquotes).1
  exact h (quotes_isPrefix_iff.2 (hf.run_isPrefix_of (quotes_isPrefix_iff.1 hquotes)))

/-- The first replacement: every backslash twice. -/
def doubled (s : List Char) : List Char := replaceAll ['\\'] ['\\', '\\'] s

theorem doubled_backslash (s : List Char) : doubled ('\\' :: s) = '\\' :: '\\' :: doubled s :=
  replaceAll_append (by simp) s

theorem doubled_cons {c : Char} (h : c ≠ '\\') (s : List Char) :
    doubled (c :: s) = c :: doubled s := by
  rw [doubled, replaceAll_cons (by simp [Ne.symm h]), ← doubled]

theorem doubled_reflectsHead : ReflectsHead '"' doubled := by
  intro s rest h
  cases s with
  | nil => cases h
  | cons c s =>
    by_cases hc : c = '\\'
    · rw [hc, doubled_backslash] at h
      exact absurd (List.cons.inj h).1 (by decide)
    · rw [doubled_cons hc] at h
      obtain ⟨rfl, hs⟩ := List.cons.inj h
      exact ⟨s, rfl, hs⟩

/-- The two replacements are the escaping in one pass. -/
theorem toList_docstringText (t : String) : (docstringText t).toList = docChars t.toList := by
  have hquotes : "\"\"\"".toList = threeQuotes := rfl
  have hescaped : "\\\"\\\"\\\"".toList = escapedQuotes := rfl
  rw [docstringText, String.toList_ofList, hquotes, hescaped, ← doubled]
  induction t.toList using docChars_induction with
  | nil => rfl
  | quotes s ih =>
    have hquotes : doubled (threeQuotes ++ s) = threeQuotes ++ doubled s := by
      simp [threeQuotes, List.replicate, doubled_cons]
    rw [hquotes, replaceAll_append (by decide), ih, docChars_quotes]
  | backslash s ih =>
    rw [doubled_backslash, replaceAll_cons (not_quotes_isPrefix (by decide) _),
      replaceAll_cons (not_quotes_isPrefix (by decide) _), ih, docChars_backslash]
  | other c s hc hquotes ih =>
    rw [doubled_cons hc, replaceAll_cons (doubled_reflectsHead.not_quotes hquotes), ih,
      docChars_cons hc hquotes]

theorem mem_docChars {c : Char} (hc : c ≠ '\\') {s : List Char} : c ∈ docChars s ↔ c ∈ s := by
  induction s using docChars_induction with
  | nil => rfl
  | quotes s ih =>
    rw [docChars_quotes, List.mem_append, List.mem_append, ih]
    simp [escapedQuotes, threeQuotes, hc]
  | backslash s ih =>
    rw [docChars_backslash]
    simp [ih, hc]
  | other d s hd hquotes ih => rw [docChars_cons hd hquotes, List.mem_cons, List.mem_cons, ih]

theorem unescape_docChars (s : List Char) : unescape named (docChars s) = some s := by
  induction s using docChars_induction with
  | nil => exact unescape_nil
  | quotes s ih =>
    have hquote : ∀ s, unescape named ('\\' :: '"' :: s) = (unescape named s).map ('"' :: ·) :=
      fun s => unescape_escape (escape_simple (by rfl : simpleEscapes.lookup '"' = some ['"']) s)
    rw [docChars_quotes]
    simp only [escapedQuotes, List.cons_append, List.nil_append, hquote, ih]
    rfl
  | backslash s ih =>
    rw [docChars_backslash, unescape_escape (escape_simple rfl _), ih]
    rfl
  | other c s hc hquotes ih =>
    rw [docChars_cons hc hquotes, unescape_cons hc, ih]
    rfl

theorem endRun_quotes_append (s : List Char) :
    endRun '"' (threeQuotes ++ s) % 3 = endRun '"' s % 3 := by
  rcases run_or_other '"' s with ⟨n, rfl⟩ | ⟨a, d, b, hd, rfl⟩
  · rw [threeQuotes, endRun_append_replicate, endRun_replicate, endRun_replicate]
    omega
  · rw [← List.append_assoc, endRun_append_cons hd, endRun_append_cons hd]

/-- Of quotes that start no group of three, either all the text is made up, or something else comes
before they are three. -/
theorem quote_run_cases {s : List Char} (h : ¬ threeQuotes <+: '"' :: s) :
    (∃ n < 2, s = List.replicate n '"') ∨
      ∃ a d b, d ≠ '"' ∧ s = a ++ d :: b ∧ ¬ List.replicate 2 '"' <+: a := by
  rw [quotes_isPrefix_iff] at h
  rcases run_or_other '"' s with ⟨n, rfl⟩ | ⟨a, d, b, hd, rfl⟩
  · refine Or.inl ⟨n, Nat.lt_of_not_le fun hn => h ?_, rfl⟩
    exact ⟨List.replicate (n - 2) '"', by rw [List.replicate_append_replicate]; congr 1; omega⟩
  · exact Or.inr ⟨a, d, b, hd, rfl, fun ha => h (ha.trans (List.prefix_append ..))⟩

/-- The escaping of two texts is that of both, unless quotes at the end of the first go together
with quotes at the start of the second. -/
theorem docChars_append {a b : List Char} (h : endRun '"' a % 3 = 0 ∨ b.head? ≠ some '"') :
    docChars (a ++ b) = docChars a ++ docChars b := by
  induction a using docChars_induction with
  | nil => rfl
  | quotes s ih =>
    rw [endRun_quotes_append] at h
    rw [List.append_assoc, docChars_quotes, docChars_quotes, List.append_assoc, ih h]
  | backslash s ih =>
    rw [endRun_cons_of_ne (by decide)] at h
    rw [List.cons_append, docChars_backslash, docChars_backslash, ih h]
    rfl
  | other c s hc hquotes ih =>
    by_cases hquote : c = '"'
    · subst hquote
      have hnext : ¬ threeQuotes <+: '"' :: (s ++ b) ∧
          (endRun '"' s % 3 = 0 ∨ b.head? ≠ some '"') := by
        rw [quotes_isPrefix_iff]
        rcases quote_run_cases hquotes with ⟨n, hn, rfl⟩ | ⟨a, d, rest, hd, rfl, ha⟩
        · have hb : b.head? ≠ some '"' := by
            refine h.resolve_left ?_
            rw [← List.replicate_succ, endRun_replicate]
            omega
          refine ⟨fun hrun => hb (head_of_run_isPrefix hn hrun), Or.inr hb⟩
        · rw [← List.cons_append, endRun_append_cons hd] at h
          rw [endRun_append_cons hd, List.append_assoc, List.cons_append]
          exact ⟨fun hrun => ha (run_isPrefix hd hrun), h⟩
      rw [List.cons_append, docChars_cons hc hnext.1, docChars_cons hc hquotes, ih hnext.2]
      rfl
    · rw [endRun_cons_of_ne hquote] at h
      rw [List.cons_append, docChars_cons hc (not_quotes_isPrefix hquote _),
        docChars_cons hc hquotes, ih h]
      rfl

theorem docChars_reflectsHead : ReflectsHead '"' docChars := by
  intro s rest h
  cases s using docChars_induction with
  | nil => cases h
  | quotes s => exact absurd (List.cons.inj h).1 (by decide)
  | backslash s => exact absurd (List.cons.inj h).1 (by decide)
  | other c s hc hquotes =>
    rw [docChars_cons hc hquotes] at h
    obtain ⟨rfl, hs⟩ := List.cons.inj h
    exact ⟨s, rfl, hs⟩

theorem docChars_head {c : Char} (h : c ≠ '"') (s : List Char) :
    ∃ d more, d ≠ '"' ∧ docChars (c :: s) = d :: more := by
  by_cases hc : c = '\\'
  · exact ⟨'\\', _, by decide, by rw [hc, docChars_backslash]⟩
  · exact ⟨c, _, h, docChars_cons hc (not_quotes_isPrefix h s)⟩

def longQuote : QuoteMark := ⟨'"', true⟩

/-- A text whose last run of quotes is made up of threes is read up to its end. -/
theorem inside_docChars {s : List Char} (h : endRun '"' s % 3 = 0) (rest : List Char) :
    longQuote.inside false (docChars s ++ (threeQuotes ++ rest)) = some (docChars s, rest) := by
  induction s using docChars_induction with
  | nil => exact longQuote.inside_close rest
  | quotes s ih =>
    rw [endRun_quotes_append] at h
    rw [docChars_quotes]
    simp only [escapedQuotes, List.cons_append, List.nil_append]
    rw [QuoteMark.inside_escape (by decide), QuoteMark.inside_escape (by decide),
      QuoteMark.inside_escape (by decide), ih h]
    rfl
  | backslash s ih =>
    rw [endRun_cons_of_ne (by decide)] at h
    rw [docChars_backslash, List.cons_append, List.cons_append,
      QuoteMark.inside_escape (by decide), ih h]
    rfl
  | other c s hc hquotes ih =>
    have hnext : ¬ threeQuotes <+: c :: (docChars s ++ (threeQuotes ++ rest)) ∧
        endRun '"' s % 3 = 0 := by
      by_cases hquote : c = '"'
      · subst hquote
        rcases quote_run_cases hquotes with ⟨n, hn, rfl⟩ | ⟨a, d, b, hd, rfl, ha⟩
        · -- the text would end with one quote or with two
          rw [← List.replicate_succ, endRun_replicate] at h
          omega
        · obtain ⟨e, more, he, hmore⟩ := docChars_head hd b
          rw [← List.cons_append, endRun_append_cons hd] at h
          rw [endRun_append_cons hd, quotes_isPrefix_iff,
            docChars_append (Or.inr (by simpa using hd)), hmore, List.append_assoc,
            List.cons_append]
          exact ⟨fun hrun => ha (docChars_reflectsHead.run_isPrefix_of (run_isPrefix he hrun)), h⟩
      · rw [endRun_cons_of_ne hquote] at h
        exact ⟨not_quotes_isPrefix hquote _, h⟩
    rw [docChars_cons hc hquotes, List.cons_append, QuoteMark.inside_cons (m := longQuote) hnext.1
      fun _ => rfl, beq_false_of_ne hc, ih hnext.2]
    rfl

theorem newlines_reflectsHead : ReflectsHead '"' newlines := by
  intro s rest h
  cases s with
  | nil => cases h
  | cons c s =>
    by_cases hc : c = '\r'
    · rw [hc, newlines, if_pos rfl] at h
      split at h
      · -- the line feed behind a carriage return stays
        rename_i hhead
        obtain ⟨s, rfl⟩ := List.head?_eq_some_iff.1 (eq_of_beq hhead)
        rw [newlines_cons (by decide)] at h
        exact absurd (List.cons.inj h).1 (by decide)
      · exact absurd (List.cons.inj h).1 (by decide)
    · rw [newlines_cons hc] at h
      obtain ⟨rfl, hs⟩ := List.cons.inj h
      exact ⟨s, rfl, hs⟩

theorem head_docChars (s : List Char) :
    ((docChars s).head? == some '\n') = (s.head? == some '\n') := by
  cases s using docChars_induction with
  | nil => rfl
  | quotes s => rfl
  | backslash s => rfl
  | other c s hc hquotes => rw [docChars_cons hc hquotes, List.head?_cons, List.head?_cons]

theorem newlines_docChars (s : List Char) : newlines (docChars s) = docChars (newlines s) := by
  induction s using docChars_induction with
  | nil => rfl
  | quotes s ih =>
    rw [docChars_quotes, newlines_append_of_no_return (by decide),
      newlines_append_of_no_return (by decide), docChars_quotes, ih]
  | backslash s ih =>
    rw [docChars_backslash, newlines_cons (by decide), newlines_cons (by decide),
      newlines_cons (by decide), docChars_backslash, ih]
  | other c s hc hquotes ih =>
    rw [docChars_cons hc hquotes]
    by_cases hreturn : c = '\r'
    · rw [hreturn, newlines, if_pos rfl, newlines, if_pos rfl, head_docChars, ih]
      split
      · rfl
      · exact (docChars_cons (by decide) (not_quotes_isPrefix (by decide) _)).symm
    · rw [newlines_cons hreturn, newlines_cons hreturn, ih,
        docChars_cons hc (newlines_reflectsHead.not_quotes hquotes)]

theorem newlines_concat_newline (s : List Char) :
    ∃ a, newlines (s ++ ['\n']) = a ++ ['\n'] := by
  induction s with
  | nil => exact ⟨[], rfl⟩
  | cons c s ih =>
    obtain ⟨a, ha⟩ := ih
    rw [List.cons_append, newlines, ha]
    split
    · split
      · exact ⟨a, rfl⟩
      · exact ⟨'\n' :: a, rfl⟩
    · exact ⟨c :: a, rfl⟩

/-- Reading line ends keeps the quotes at the end of a text. -/
theorem endRun_newlines (s : List Char) : endRun '"' (newlines s) = endRun '"' s := by
  induction s using List.reverseRecOn with
  | nil => rfl
  | append_singleton s c ih =>
    by_cases hnewline : c = '\n'
    · obtain ⟨a, ha⟩ := newlines_concat_newline s
      rw [hnewline, ha, endRun_concat, endRun_concat]
      rfl
    · rw [newlines_append (Or.inr (by simpa using hnewline)), endRun_concat]
      by_cases hreturn : c = '\r'
      · rw [hreturn]
        exact endRun_concat '"' '\n' (newlines s)
      · rw [newlines_cons hreturn]
        exact (endRun_concat '"' c (newlines s)).trans (by rw [ih])

/-- The quotes of the last run that are not in groups of three. -/
def looseQuotes (s : List Char) : Nat := endRun '"' s % 3

theorem looseQuotes_split (s : List Char) :
    ∃ a, s = a ++ List.replicate (looseQuotes s) '"' ∧ looseQuotes a = 0 := by
  obtain ⟨a, hs, ha⟩ := endRun_split '"' s
  refine ⟨a ++ List.replicate (3 * (endRun '"' s / 3)) '"', ?_, ?_⟩
  · rw [List.append_assoc, List.replicate_append_replicate, looseQuotes, Nat.div_add_mod]
    exact hs
  · rw [looseQuotes, endRun_append_replicate, ha]
    omega

theorem docChars_loose {n : Nat} (h : n < 3) :
    docChars (List.replicate n '"') = List.replicate n '"' := by
  have hall : ∀ k : Fin 3, docChars (List.replicate k.val '"') = List.replicate k.val '"' := by
    decide
  exact hall ⟨n, h⟩

theorem toList_docstring (t : String) :
    (docstring (docstringText t)).toList = threeQuotes ++ (docChars t.toList ++ threeQuotes) := by
  rw [docstring, String.toList_append, String.toList_append, toList_docstringText,
    List.append_assoc]
  rfl

/-- The escaped text as the reader sees it: the loose quotes at its end stay apart. -/
theorem newlines_docChars_append {a : List Char} (h : looseQuotes a = 0) {n : Nat} (hn : n < 3) :
    newlines (docChars (a ++ List.replicate n '"')) =
      docChars (newlines a) ++ List.replicate n '"' := by
  have hhead : (List.replicate n '"').head? ≠ some '\n' := by cases n <;> simp [List.replicate_succ]
  have hreturn : '\r' ∉ List.replicate n '"' := by simp
  rw [looseQuotes, ← endRun_newlines] at h
  rw [newlines_docChars, newlines_append (Or.inr hhead), newlines_of_no_return hreturn,
    docChars_append (Or.inl h), docChars_loose hn]

theorem newlines_threeQuotes : newlines threeQuotes = threeQuotes := by decide

/-- How a docstring is read: up to the loose quotes at the end of its text, and as many quotes are
left over. -/
theorem readLiteral_docstring {a : List Char} (h : looseQuotes a = 0) {n : Nat} (hn : n < 3)
    (hnull : '\x00' ∉ a) :
    readLiteral named
        (threeQuotes ++ (docChars (a ++ List.replicate n '"') ++ threeQuotes)) =
      some (newlines a, List.replicate n '"') := by
  have hsource : newlines (threeQuotes ++ (docChars (a ++ List.replicate n '"') ++ threeQuotes)) =
      threeQuotes ++ (docChars (newlines a) ++ (threeQuotes ++ List.replicate n '"')) := by
    rw [newlines_append_of_no_return (by decide), newlines_append (Or.inr (by decide)),
      newlines_docChars_append h hn, newlines_threeQuotes, List.append_assoc, threeQuotes,
      List.replicate_append_replicate, List.replicate_append_replicate, Nat.add_comm]
  have hclosed : endRun '"' (newlines a) % 3 = 0 := by rwa [endRun_newlines]
  refine readLiteral_eq_some_iff.2 ⟨?_, longQuote, _, _, ?_, inside_docChars hclosed _,
    unescape_docChars _⟩
  · simp [mem_docChars, hnull, threeQuotes]
  · rw [hsource]
    exact QuoteMark.opening_long (Or.inl rfl) _

theorem readLiteral_docstring_iff (t : List Char) :
    readLiteral named (threeQuotes ++ (docChars t ++ threeQuotes)) = some (newlines t, []) ↔
      '\x00' ∉ t ∧ looseQuotes t = 0 := by
  obtain ⟨a, ht, ha⟩ := looseQuotes_split t
  have hn : looseQuotes t < 3 := Nat.mod_lt _ (by decide)
  generalize looseQuotes t = n at ht hn ⊢
  subst ht
  constructor
  · intro h
    have hnull : '\x00' ∉ a ++ List.replicate n '"' := by
      have hsource := (readLiteral_eq_some_iff.1 h).1
      rw [List.mem_append, List.mem_append, mem_docChars (by decide), not_or, not_or] at hsource
      exact hsource.2.1
    rw [readLiteral_docstring ha hn fun hmem => hnull (List.mem_append_left _ hmem)] at h
    have hrest := (Prod.mk.inj (Option.some.inj h)).2
    exact ⟨hnull, by simpa using hrest⟩
  · rintro ⟨hnull, rfl⟩
    rw [readLiteral_docstring ha hn fun hmem => hnull (List.mem_append_left _ hmem)]
    simp

theorem denotes_docstring_iff (t : String) :
    Denotes named (docstring (docstringText t)) (String.ofList (newlines t.toList)) ↔
      '\x00' ∉ t.toList ∧ looseQuotes t.toList = 0 := by
  rw [Denotes, toList_docstring, String.toList_ofList]
  exact readLiteral_docstring_iff t.toList

def transitionText (t : Transition) : String := t.source ++ " --" ++ t.event ++ "--> " ++ t.target

/-- What stands between the parts of a transition keeps their quotes apart. -/
theorem docstringText_transitionText (t : Transition) :
    docstringText t.source ++ " --" ++ docstringText t.event ++ "--> " ++ docstringText t.target =
      docstringText (transitionText t) := by
  have hfirst : " --".toList = [' ', '-', '-'] := rfl
  have hsecond : "--> ".toList = ['-', '-', '>', ' '] := rfl
  have hdash : docChars [' ', '-', '-'] = [' ', '-', '-'] := by decide
  have harrow : docChars ['-', '-', '>', ' '] = ['-', '-', '>', ' '] := by decide
  apply String.toList_injective
  simp only [transitionText, String.toList_append, toList_docstringText, hfirst, hsecond,
    List.append_assoc]
  rw [docChars_append (a := t.source.toList) (Or.inr (by simp)),
    docChars_append (a := [' ', '-', '-']) (Or.inl (by decide)),
    docChars_append (a := t.event.toList) (Or.inr (by simp)),
    docChars_append (a := ['-', '-', '>', ' ']) (Or.inl (by decide)), hdash, harrow]

theorem looseQuotes_transitionText (t : Transition) :
    looseQuotes (transitionText t).toList = looseQuotes t.target.toList := by
  have hend : (transitionText t).toList =
      (t.source ++ " --" ++ t.event ++ "-->").toList ++ ' ' :: t.target.toList := by
    simp [transitionText]
  rw [looseQuotes, hend, endRun_append_cons (by decide), looseQuotes]

/-- Docstrings denote their texts, with line ends as they are read, exactly when no loose quote
stands at the end. So it is with the signature of an operation, and with the states and the event of
a transition, where the last state counts. A null character can stand in no docstring. -/
theorem docstrings_denote_iff (named : String → Option Char) :
    (∀ t : String, Denotes named (docstring (docstringText t)) (String.ofList (newlines t.toList)) ↔
      '\x00' ∉ t.toList ∧ looseQuotes t.toList = 0) ∧
    (∀ (tag label : String) (o : Operation), ∃ literal,
      (operationHeader tag label o)[2]? = some (bodyIndent ++ literal) ∧
      (Denotes named literal (String.ofList (newlines o.signature.toList)) ↔
        '\x00' ∉ o.signature.toList ∧ looseQuotes o.signature.toList = 0)) ∧
    ∀ (scope : Action.Scope) (origins : List (String × String)) (className method : String)
      (row : TransitionRow), row.method = some method → ∃ literal,
      (transitionMethod scope origins className row).lines[2]? = some (bodyIndent ++ literal) ∧
      (Denotes named literal (String.ofList (newlines (transitionText row.transition).toList)) ↔
        '\x00' ∉ (transitionText row.transition).toList ∧
          looseQuotes row.transition.target.toList = 0) := by
  refine ⟨denotes_docstring_iff, fun tag label o => ⟨_, rfl, denotes_docstring_iff o.signature⟩,
    fun scope origins className method row hmethod =>
      ⟨docstring (docstringText (transitionText row.transition)), ?_, ?_⟩⟩
  · rw [transitionMethod, hmethod, ← docstringText_transitionText]
    rfl
  · rw [denotes_docstring_iff, looseQuotes_transitionText]

def quotedRow : TransitionRow :=
  ⟨"Idle", ⟨"Idle", "greet", "greet", [], none, "return", "say \"\"\"hi\"\"\""⟩,
    some "_sm_action_Idle_greet", none⟩

theorem quotedRow_docstring :
    quotedRow.method = some "_sm_action_Idle_greet" ∧ ∃ literal,
      (transitionMethod ⟨.empty, none, "owner", [], none⟩ [] "Greeter" quotedRow).lines[2]? =
        some (bodyIndent ++ literal) ∧
      Denotes (fun _ => none) literal "Idle --greet--> say \"\"\"hi\"\"\"" := by
  obtain ⟨-, -, hrows⟩ := docstrings_denote_iff fun _ => none
  obtain ⟨literal, hline, hiff⟩ := hrows ⟨.empty, none, "owner", [], none⟩ [] "Greeter"
    "_sm_action_Idle_greet" quotedRow rfl
  exact ⟨rfl, literal, hline, hiff.2 (by decide +kernel)⟩

/-- A text that ends with one quote: the literal is closed too early and a quote is left over. -/
theorem quoted_end_left_over :
    readLiteral (fun _ => none) (docstring (docstringText "say \"hi\"")).toList =
      some ("say \"hi".toList, ['"']) ∧
    ¬ Denotes (fun _ => none) (docstring (docstringText "say \"hi\"")) "say \"hi\"" := by
  have hread : readLiteral (fun _ => none) (docstring (docstringText "say \"hi\"")).toList =
      some ("say \"hi".toList, ['"']) := by
    rw [toList_docstring]
    exact readLiteral_docstring (a := "say \"hi".toList) (n := 1) (by decide) (by decide)
      (by decide)
  refine ⟨hread, fun h => ?_⟩
  rw [Denotes, hread] at h
  cases h

end Python

end ExecutableUml
