import ExecutableUml.Text.Case
import ExecutableUml.Text.Span

/-! Tokens of one line of action text. Nothing is dropped: the characters of the tokens, blanks
included, are the characters of the line. -/

namespace ExecutableUml.Action

open Text

inductive TokenKind where
  | ident
  | number
  | string
  | punct
  | blank
deriving DecidableEq, Repr

structure Token where
  kind : TokenKind
  chars : List Char
deriving DecidableEq, Repr

namespace Token

def text (t : Token) : String := String.ofList t.chars

def isIdent (t : Token) : Bool := t.kind == .ident

def isBlank (t : Token) : Bool := t.kind == .blank

def isPunct (t : Token) (mark : String) : Bool := t.kind == .punct && t.chars == mark.toList

/-- An identifier equal to `word` up to ASCII case. -/
def isKeyword (t : Token) (word : String) : Bool := t.isIdent && sameUpToAsciiCase t.text word

end Token

def doubleMarks : List (Char × Char) :=
  [(':', ':'), ('-', '>'), ('=', '='), ('!', '='), ('<', '='), ('>', '='), ('&', '&'), ('|', '|')]

/-- The rest of a string literal after its opening quote, up to and with the closing one; a
backslash takes the next character along. Without a closing quote it is the rest of the line. -/
def literalTail (quote : Char) : List Char → List Char × List Char
  | [] => ([], [])
  | '\\' :: [] => (['\\'], [])
  | '\\' :: c :: rest =>
    let tail := literalTail quote rest
    ('\\' :: c :: tail.1, tail.2)
  | c :: rest =>
    if c = quote then ([c], rest)
    else
      let tail := literalTail quote rest
      (c :: tail.1, tail.2)

/-- The fraction of a number: a point counts only when a digit follows it. -/
def fraction : List Char → List Char × List Char
  | '.' :: d :: rest =>
    if d.isDigit then ('.' :: d :: rest.takeWhile Char.isDigit, rest.dropWhile Char.isDigit)
    else ([], '.' :: d :: rest)
  | s => ([], s)

/-- The token that begins with `c`, and the text after it. -/
def firstToken (c : Char) (rest : List Char) : Token × List Char :=
  if isBlank c then (⟨.blank, c :: rest.takeWhile isBlank⟩, rest.dropWhile isBlank)
  else if isWordStart c then (⟨.ident, c :: rest.takeWhile isWordChar⟩, rest.dropWhile isWordChar)
  else if c.isDigit then
    let tail := fraction (rest.dropWhile Char.isDigit)
    (⟨.number, c :: rest.takeWhile Char.isDigit ++ tail.1⟩, tail.2)
  else if c = '"' ∨ c = '\'' then
    let tail := literalTail c rest
    (⟨.string, c :: tail.1⟩, tail.2)
  else
    match rest with
    | d :: rest' =>
      if doubleMarks.contains (c, d) then (⟨.punct, [c, d]⟩, rest') else (⟨.punct, [c]⟩, rest)
    | [] => (⟨.punct, [c]⟩, [])

theorem literalTail_append (q : Char) (s : List Char) :
    (literalTail q s).1 ++ (literalTail q s).2 = s := by
  fun_induction literalTail q s with
  | case1 => rfl
  | case2 => rfl
  | case3 c rest tail ih => simpa [tail] using ih
  | case4 rest => rfl
  | case5 c rest _ _ _ tail ih => simpa [tail] using ih

theorem fraction_append (s : List Char) : (fraction s).1 ++ (fraction s).2 = s := by
  fun_cases fraction s <;> simp [List.takeWhile_append_dropWhile]

theorem firstToken_append (c : Char) (rest : List Char) :
    (firstToken c rest).1.chars ++ (firstToken c rest).2 = c :: rest := by
  unfold firstToken
  split
  · simp [List.takeWhile_append_dropWhile]
  split
  · simp [List.takeWhile_append_dropWhile]
  split
  · simp [List.append_assoc, fraction_append, List.takeWhile_append_dropWhile]
  split
  · simp [literalTail_append]
  · split
    · split <;> simp
    · simp

theorem firstToken_chars_ne_nil (c : Char) (rest : List Char) :
    (firstToken c rest).1.chars ≠ [] := by
  unfold firstToken
  repeat' split
  all_goals simp

theorem firstToken_length (c : Char) (rest : List Char) :
    (firstToken c rest).2.length ≤ rest.length := by
  have h := congrArg List.length (firstToken_append c rest)
  have h' := List.length_pos_iff.2 (firstToken_chars_ne_nil c rest)
  simp only [List.length_append, List.length_cons] at h
  omega

def tokens : List Char → List Token
  | [] => []
  | c :: rest =>
    (firstToken c rest).1 :: tokens (firstToken c rest).2
termination_by s => s.length
decreasing_by
  have := firstToken_length c rest
  simp only [List.length_cons]
  omega

/-- Concatenated characters. -/
def spell (ts : List Token) : List Char := ts.flatMap Token.chars

theorem spell_tokens (s : List Char) : spell (tokens s) = s := by
  fun_induction tokens s with
  | case1 => rfl
  | case2 c rest ih =>
    rw [spell, List.flatMap_cons, ← spell, ih]
    exact firstToken_append c rest

/-- Each token with its byte range; the first one starts at `start`. -/
def located (start : Nat) : List Token → List (Token × Span)
  | [] => []
  | t :: ts => (t, ⟨start, start + byteLength t.chars⟩) :: located (start + byteLength t.chars) ts

def significant (ts : List Token) : List Token := ts.filter fun t => !t.isBlank

/-- A token that is not blank, with the blanks before it. -/
structure Word where
  gap : List Char
  token : Token
deriving DecidableEq, Repr

namespace Word

def text (w : Word) : String := w.token.text

def isIdent (w : Word) : Bool := w.token.isIdent

def isPunct (w : Word) (mark : String) : Bool := w.token.isPunct mark

def isKeyword (w : Word) (word : String) : Bool := w.token.isKeyword word

end Word

def wordsAfter (gap : List Char) : List Token → List Word
  | [] => []
  | t :: ts => if t.isBlank then wordsAfter (gap ++ t.chars) ts else ⟨gap, t⟩ :: wordsAfter [] ts

def words (ts : List Token) : List Word := wordsAfter [] ts

/-- The text from the first word to the last one, with the blanks between them. -/
def Word.join : List Word → String
  | [] => ""
  | w :: ws => String.ofList (w.token.chars ++ ws.flatMap fun v => v.gap ++ v.token.chars)

end ExecutableUml.Action
