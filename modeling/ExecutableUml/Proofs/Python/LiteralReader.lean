import ExecutableUml.Json.Reader
import ExecutableUml.Python.Literal
import ExecutableUml.Proofs.Text.Split

/-! String literals as they are read where the generated code runs. The line ends of a source are
line feeds to the reader. A literal goes from its opening mark to the next mark of the same kind;
inside, a backslash takes the next character with it, whatever that is. What is inside is then read
again for its escapes. -/

namespace ExecutableUml.Python

open Text

/-- A carriage return, alone or in front of a line feed, ends a line like a line feed. -/
def newlines : List Char → List Char
  | [] => []
  | c :: s =>
    if c = '\r' then if s.head? == some '\n' then newlines s else '\n' :: newlines s
    else c :: newlines s

/-- One quote or three, which open a literal and close it. -/
structure QuoteMark where
  quote : Char
  long : Bool
deriving DecidableEq, Repr

namespace QuoteMark

def text (m : QuoteMark) : List Char := if m.long then [m.quote, m.quote, m.quote] else [m.quote]

def opening : List Char → Option (QuoteMark × List Char)
  | [] => none
  | q :: s =>
    if q = '"' ∨ q = '\'' then
      match stripStart [q, q] s with
      | some rest => some (⟨q, true⟩, rest)
      | none => some (⟨q, false⟩, s)
    else none

/-- What is inside a literal, and what follows its closing mark. A character is `escaped` by a
backslash in front of it. A line end has to be escaped unless the literal is long. -/
def inside (m : QuoteMark) (escaped : Bool) : List Char → Option (List Char × List Char)
  | [] => none
  | c :: s =>
    if escaped then (m.inside false s).map fun r => (c :: r.1, r.2)
    else match stripStart m.text (c :: s) with
      | some rest => some ([], rest)
      | none =>
        if c = '\n' ∧ m.long = false then none
        else (m.inside (c == '\\') s).map fun r => (c :: r.1, r.2)

end QuoteMark

def simpleEscapes : List (Char × List Char) := [
  ('\n', []), ('\\', ['\\']), ('\'', ['\'']), ('"', ['"']), ('a', ['\x07']), ('b', ['\x08']),
  ('f', ['\x0c']), ('n', ['\n']), ('r', ['\r']), ('t', ['\t']), ('v', ['\x0b'])]

def hexEscapes : List (Char × Nat) := [('x', 2), ('u', 4), ('U', 8)]

def isOctal (c : Char) : Bool := c.isDigit && c.toNat < '8'.toNat

/-- A backslash in front of any other character stands for itself. -/
def startsEscape (c : Char) : Bool :=
  (simpleEscapes.lookup c).isSome || (hexEscapes.lookup c).isSome || isOctal c || c == 'N'

/-- The character with a code point. Surrogates are not characters: they stand in no text. -/
def character? (n : Nat) : Option Char := if n.isValidChar then some (Char.ofNat n) else none

def hexEscape (width : Nat) (s : List Char) : Option (List Char × List Char) :=
  if s.length < width then none
  else do
    let digits ← (s.take width).mapM Json.hexValue
    let c ← character? (digits.foldl (fun n d => 16 * n + d) 0)
    return ([c], s.drop width)

def octalEscape (s : List Char) : Option (List Char × List Char) :=
  let digits := (s.take 3).takeWhile isOctal
  (character? (digits.foldl (fun n d => 8 * n + (d.toNat - '0'.toNat)) 0)).map fun c =>
    ([c], s.drop digits.length)

def namedEscape (named : String → Option Char) : List Char → Option (List Char × List Char)
  | [] => none
  | c :: s =>
    if c = '\x7b' then do
      let cut ← cutAtChar '\x7d' s
      let c ← named (String.ofList cut.1)
      return ([c], cut.2)
    else none

/-- What the text behind a backslash begins with denotes, and what follows it. `named` has the
characters that can be referred to by name. -/
def escape (named : String → Option Char) : List Char → Option (List Char × List Char)
  | [] => none
  | c :: s =>
    match simpleEscapes.lookup c, hexEscapes.lookup c with
    | some text, _ => some (text, s)
    | none, some width => hexEscape width s
    | none, none =>
      if isOctal c then octalEscape (c :: s)
      else if c = 'N' then namedEscape named s
      else some (['\\', c], s)

variable {named : String → Option Char}

theorem simpleEscape_length {c : Char} {text : List Char}
    (h : simpleEscapes.lookup c = some text) : text.length ≤ 1 := by
  have hall : (simpleEscapes.all fun e => e.2.length ≤ 1) = true := by decide
  obtain ⟨before, after, heq, -⟩ := List.lookup_eq_some_iff.1 h
  have hmem : (c, text) ∈ simpleEscapes := by simp [heq]
  exact of_decide_eq_true (List.all_eq_true.1 hall _ hmem)

theorem hexEscape_eq_some {width : Nat} {s text rest : List Char}
    (h : hexEscape width s = some (text, rest)) : text.length ≤ 1 ∧ rest <:+ s := by
  rw [hexEscape] at h
  split at h
  · cases h
  · obtain ⟨digits, -, h⟩ := Option.bind_eq_some_iff.1 h
    obtain ⟨c, -, h⟩ := Option.bind_eq_some_iff.1 h
    cases h
    exact ⟨Nat.le_refl 1, List.drop_suffix ..⟩

theorem octalEscape_eq_some {c : Char} {s text rest : List Char} (hc : isOctal c = true)
    (h : octalEscape (c :: s) = some (text, rest)) : text.length ≤ 1 ∧ rest <:+ s := by
  obtain ⟨d, -, h⟩ := Option.map_eq_some_iff.1 h
  cases h
  refine ⟨Nat.le_refl 1, ?_⟩
  rw [List.take_succ_cons, List.takeWhile_cons_of_pos hc, List.length_cons, List.drop_succ_cons]
  exact List.drop_suffix ..

theorem namedEscape_eq_some {s text rest : List Char}
    (h : namedEscape named s = some (text, rest)) : text.length ≤ 1 ∧ rest <:+ s := by
  cases s with
  | nil => cases h
  | cons c s =>
    rw [namedEscape] at h
    split at h
    · obtain ⟨cut, hcut, h⟩ := Option.bind_eq_some_iff.1 h
      obtain ⟨d, -, h⟩ := Option.bind_eq_some_iff.1 h
      cases h
      refine ⟨Nat.le_refl 1, ?_⟩
      rw [cutAtChar_eq_some hcut]
      exact ((List.suffix_cons ..).trans (List.suffix_append ..)).trans (List.suffix_cons ..)
    · cases h

/-- What an escape is: at most one character for everything it takes, or a backslash that stands for
itself. -/
theorem escape_cases {c : Char} {s text rest : List Char}
    (h : escape named (c :: s) = some (text, rest)) :
    startsEscape c = true ∧ text.length ≤ 1 ∧ rest <:+ s ∨
      startsEscape c = false ∧ text = ['\\', c] ∧ rest = s := by
  rw [escape] at h
  split at h
  · rename_i found hsimple
    cases h
    exact Or.inl ⟨by simp [startsEscape, hsimple], simpleEscape_length hsimple, List.suffix_rfl⟩
  · rename_i width hsimple hhex
    exact Or.inl ⟨by simp [startsEscape, hhex], hexEscape_eq_some h⟩
  · rename_i hsimple hhex
    split at h
    · rename_i hoctal
      exact Or.inl ⟨by simp [startsEscape, hoctal], octalEscape_eq_some hoctal h⟩
    · rename_i hoctal
      split at h
      · rename_i hname
        exact Or.inl ⟨by simp [startsEscape, hname], namedEscape_eq_some h⟩
      · rename_i hname
        cases h
        exact Or.inr ⟨by simp [startsEscape, hsimple, hhex, hoctal, hname], rfl, rfl⟩

theorem escape_of_not_startsEscape {c : Char} (h : startsEscape c = false) (s : List Char) :
    escape named (c :: s) = some (['\\', c], s) := by
  simp only [startsEscape, Bool.or_eq_false_iff, Option.isSome_eq_false_iff,
    Option.isNone_iff_eq_none, beq_eq_false_iff_ne] at h
  obtain ⟨⟨⟨hsimple, hhex⟩, hoctal⟩, hname⟩ := h
  rw [escape, hsimple, hhex]
  simp [hoctal, hname]

theorem escape_simple {c : Char} {text : List Char} (h : simpleEscapes.lookup c = some text)
    (s : List Char) : escape named (c :: s) = some (text, s) := by
  rw [escape, h]

theorem escape_shorter {s text rest : List Char} (h : escape named s = some (text, rest)) :
    rest.length < s.length := by
  cases s with
  | nil => cases h
  | cons c s =>
    rcases escape_cases h with ⟨-, -, hsuffix⟩ | ⟨-, -, rfl⟩
    · exact Nat.lt_succ_of_le hsuffix.length_le
    · exact Nat.lt_succ_self _

def unescape (named : String → Option Char) (s : List Char) : Option (List Char) :=
  match s with
  | [] => some []
  | c :: s =>
    if c = '\\' then
      match _h : escape named s with
      | some (text, rest) => (unescape named rest).map (text ++ ·)
      | none => none
    else (unescape named s).map (c :: ·)
termination_by s.length
decreasing_by
  · exact Nat.lt_succ_of_lt (escape_shorter _h)
  · exact Nat.lt_succ_self _

theorem unescape_nil : unescape named [] = some [] := by rw [unescape]

theorem unescape_cons {c : Char} (h : c ≠ '\\') (s : List Char) :
    unescape named (c :: s) = (unescape named s).map (c :: ·) := by
  rw [unescape, if_neg h]

theorem unescape_escape {s text rest : List Char} (h : escape named s = some (text, rest)) :
    unescape named ('\\' :: s) = (unescape named rest).map (text ++ ·) := by
  rw [unescape, if_pos rfl]
  split
  · rename_i text' rest' h'
    obtain ⟨rfl, rfl⟩ := Prod.mk.inj (Option.some.inj (h.symm.trans h'))
    rfl
  · rename_i h'
    rw [h] at h'
    cases h'

/-- A literal at the start of a source: the text that it denotes, and what follows it. No source has
a null character. -/
def readLiteral (named : String → Option Char) (source : List Char) :
    Option (List Char × List Char) :=
  if source.contains '\x00' then none
  else do
    let opened ← QuoteMark.opening (newlines source)
    let closed ← opened.1.inside false opened.2
    let text ← unescape named closed.1
    return (text, closed.2)

/-- The source is one literal, from its first character to the last, and denotes the text. -/
def Denotes (named : String → Option Char) (source text : String) : Prop :=
  readLiteral named source.toList = some (text.toList, [])

theorem newlines_cons {c : Char} (h : c ≠ '\r') (s : List Char) :
    newlines (c :: s) = c :: newlines s := by
  rw [newlines, if_neg h]

theorem newlines_append_of_no_return {a : List Char} (h : '\r' ∉ a) (b : List Char) :
    newlines (a ++ b) = a ++ newlines b := by
  induction a with
  | nil => rfl
  | cons c a ih =>
    rw [List.mem_cons, not_or] at h
    rw [List.cons_append, newlines_cons (Ne.symm h.1), ih h.2, List.cons_append]

theorem newlines_of_no_return {s : List Char} (h : '\r' ∉ s) : newlines s = s := by
  simpa [newlines] using newlines_append_of_no_return h []

theorem no_return_newlines (s : List Char) : '\r' ∉ newlines s := by
  induction s with
  | nil => simp [newlines]
  | cons c s ih =>
    rw [newlines]
    split
    · split
      · exact ih
      · exact fun h => (List.mem_cons.1 h).elim (by decide) ih
    · rename_i hc
      exact fun h => (List.mem_cons.1 h).elim (Ne.symm hc) ih

theorem length_newlines_le (s : List Char) : (newlines s).length ≤ s.length := by
  induction s with
  | nil => exact Nat.le_refl 0
  | cons c s ih =>
    rw [newlines]
    split
    · split
      · exact Nat.le_succ_of_le ih
      · exact Nat.succ_le_succ ih
    · exact Nat.succ_le_succ ih

/-- Line ends of two parts are read apart if no line end goes across. -/
theorem newlines_append {a b : List Char} (h : a.getLast? ≠ some '\r' ∨ b.head? ≠ some '\n') :
    newlines (a ++ b) = newlines a ++ newlines b := by
  induction a with
  | nil => rfl
  | cons c a ih =>
    have hrest : newlines (a ++ b) = newlines a ++ newlines b := by
      cases a with
      | nil => rfl
      | cons d a => exact ih (by simpa using h)
    by_cases hc : c = '\r'
    · have hhead : ((a ++ b).head? == some '\n') = (a.head? == some '\n') := by
        cases a with
        | nil => simpa [hc] using h
        | cons d a => rfl
      rw [List.cons_append, newlines, newlines, if_pos hc, if_pos hc, hhead, hrest]
      split <;> rfl
    · rw [List.cons_append, newlines_cons hc, newlines_cons hc, hrest, List.cons_append]

namespace QuoteMark

theorem opening_short {q : Char} (hq : q = '"' ∨ q = '\'') {s : List Char} (h : ¬ [q, q] <+: s) :
    opening (q :: s) = some (⟨q, false⟩, s) := by
  rw [opening, if_pos hq, stripStart_eq_none_iff.2 h]

theorem opening_long {q : Char} (hq : q = '"' ∨ q = '\'') (s : List Char) :
    opening (q :: q :: q :: s) = some (⟨q, true⟩, s) := by
  rw [opening, if_pos hq, stripStart_eq_some_iff.2 (by rfl : q :: q :: s = [q, q] ++ s)]

theorem text_eq_cons (m : QuoteMark) : ∃ more, m.text = m.quote :: more := by
  rw [text]
  split
  · exact ⟨_, rfl⟩
  · exact ⟨_, rfl⟩

theorem not_text_isPrefix {m : QuoteMark} {c : Char} (h : c ≠ m.quote) (s : List Char) :
    ¬ m.text <+: c :: s := by
  obtain ⟨more, htext⟩ := m.text_eq_cons
  rw [htext, List.cons_prefix_cons]
  exact fun hprefix => h hprefix.1.symm

theorem inside_close (m : QuoteMark) (rest : List Char) :
    m.inside false (m.text ++ rest) = some ([], rest) := by
  obtain ⟨more, htext⟩ := m.text_eq_cons
  have hstrip : stripStart m.text (m.quote :: (more ++ rest)) = some rest :=
    stripStart_eq_some_iff.2 (by rw [htext, List.cons_append])
  rw [htext, List.cons_append, inside, hstrip]
  rfl

theorem inside_cons {m : QuoteMark} {c : Char} {s : List Char} (hopen : ¬ m.text <+: c :: s)
    (hline : c = '\n' → m.long = true) :
    m.inside false (c :: s) = (m.inside (c == '\\') s).map fun r => (c :: r.1, r.2) := by
  have hends : ¬ (c = '\n' ∧ m.long = false) := fun h => by simp [hline h.1] at h
  rw [inside, stripStart_eq_none_iff.2 hopen, if_neg (by decide)]
  simp only [if_neg hends]

theorem inside_escaped (m : QuoteMark) (c : Char) (s : List Char) :
    m.inside true (c :: s) = (m.inside false s).map fun r => (c :: r.1, r.2) := by
  rw [inside, if_pos rfl]

theorem inside_escape {m : QuoteMark} (hq : m.quote ≠ '\\') (c : Char) (s : List Char) :
    m.inside false ('\\' :: c :: s) =
      (m.inside false s).map fun r => ('\\' :: c :: r.1, r.2) := by
  rw [inside_cons (not_text_isPrefix (Ne.symm hq) _) (fun h => by cases h), beq_self_eq_true,
    inside_escaped, Option.map_map]
  rfl

/-- How a literal goes on at a character that is not escaped. -/
theorem inside_cases {m : QuoteMark} {c : Char} {s raw rest : List Char}
    (h : m.inside false (c :: s) = some (raw, rest)) :
    raw = [] ∧ c :: s = m.text ++ rest ∨
      ¬ m.text <+: c :: s ∧ (c = '\n' → m.long = true) ∧
        ∃ raw', raw = c :: raw' ∧ m.inside (c == '\\') s = some (raw', rest) := by
  rw [inside, if_neg (by decide)] at h
  cases hstrip : stripStart m.text (c :: s) with
  | some after =>
    rw [hstrip] at h
    cases h
    exact Or.inl ⟨rfl, stripStart_eq_some_iff.1 hstrip⟩
  | none =>
    rw [hstrip] at h
    simp only at h
    split at h
    · cases h
    · rename_i hends
      obtain ⟨r, hr, heq⟩ := Option.map_eq_some_iff.1 h
      cases heq
      refine Or.inr ⟨stripStart_eq_none_iff.1 hstrip, fun hline => ?_, r.1, rfl, hr⟩
      cases hlong : m.long with
      | true => rfl
      | false => exact absurd ⟨hline, hlong⟩ hends

/-- What is inside, the closing mark and what follows make up the source. -/
theorem inside_eq_some {m : QuoteMark} {escaped : Bool} {s raw rest : List Char}
    (h : m.inside escaped s = some (raw, rest)) : s = raw ++ m.text ++ rest := by
  induction s generalizing escaped raw with
  | nil => cases h
  | cons c s ih =>
    cases escaped with
    | true =>
      rw [inside_escaped] at h
      obtain ⟨r, hr, heq⟩ := Option.map_eq_some_iff.1 h
      cases heq
      rw [ih hr]
      rfl
    | false =>
      rcases inside_cases h with ⟨rfl, heq⟩ | ⟨-, -, raw', rfl, hr⟩
      · exact heq
      · rw [ih hr]
        rfl

end QuoteMark

/-- How often a text has a character at its end. -/
def endRun (c : Char) (s : List Char) : Nat := (s.reverse.takeWhile (· == c)).length

theorem endRun_concat (c d : Char) (s : List Char) :
    endRun c (s ++ [d]) = if d = c then endRun c s + 1 else 0 := by
  rw [endRun, List.reverse_append, List.reverse_singleton, List.singleton_append,
    List.takeWhile_cons]
  by_cases h : d = c
  · simp [h, endRun]
  · simp [h]

theorem readLiteral_eq_some_iff {source text rest : List Char} :
    readLiteral named source = some (text, rest) ↔
      '\x00' ∉ source ∧ ∃ m s raw, QuoteMark.opening (newlines source) = some (m, s) ∧
        m.inside false s = some (raw, rest) ∧ unescape named raw = some text := by
  rw [readLiteral, ← List.contains_iff_mem]
  cases source.contains '\x00' with
  | true => simp
  | false =>
    constructor
    · intro h
      obtain ⟨opened, hopened, h⟩ := Option.bind_eq_some_iff.1 h
      obtain ⟨closed, hclosed, h⟩ := Option.bind_eq_some_iff.1 h
      obtain ⟨read, hread, h⟩ := Option.bind_eq_some_iff.1 h
      cases h
      exact ⟨by decide, opened.1, opened.2, closed.1, hopened, hclosed, hread⟩
    · rintro ⟨-, m, s, raw, hopened, hclosed, hread⟩
      simp [hopened, hclosed, hread]

end ExecutableUml.Python
