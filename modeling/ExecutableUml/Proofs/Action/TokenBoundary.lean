import ExecutableUml.Action.Token

/-! Where tokens end. A text keeps its tokens when the line goes on, unless its last token would
take the next character along. -/

namespace ExecutableUml.Action

open Text

def literalCloses (quote : Char) : List Char → Bool
  | [] => false
  | '\\' :: [] => false
  | '\\' :: _ :: rest => literalCloses quote rest
  | c :: rest => c = quote || literalCloses quote rest

namespace Token

def isClosed (t : Token) : Bool :=
  match t.kind, t.chars with
  | .string, quote :: tail => literalCloses quote tail
  | _, _ => true

/-- Whether the token ends before `c`. A point counts as open before a digit, because a number in
front of it would go on. -/
def stopsAt (t : Token) (c : Char) : Bool :=
  match t.kind with
  | .blank => !Text.isBlank c
  | .ident => !isWordChar c
  | .number => !c.isDigit && c != '.'
  | .string => t.isClosed
  | .punct =>
    match t.chars with
    | [mark] => !doubleMarks.contains (mark, c) && !(mark == '.' && c.isDigit)
    | _ => true

end Token

def Stops (ts : List Token) (b : List Char) : Prop :=
  ∀ t ∈ ts.getLast?, ∀ c ∈ b.head?, t.stopsAt c = true

section Spans

variable {α : Type} {p : α → Bool} {a b : List α}

theorem takeWhile_append_of_stop (h : a.dropWhile p = [] → ∀ c ∈ b.head?, p c = false) :
    (a ++ b).takeWhile p = a.takeWhile p := by
  induction a with
  | nil =>
    cases b with
    | nil => rfl
    | cons c b => simp [h rfl c rfl]
  | cons c a ih =>
    by_cases hc : p c = true
    · simp only [List.cons_append, List.takeWhile_cons_of_pos hc]
      rw [ih fun he => h (by rwa [List.dropWhile_cons_of_pos hc])]
    · simp only [List.cons_append, List.takeWhile_cons_of_neg hc]

theorem dropWhile_append_of_stop (h : a.dropWhile p = [] → ∀ c ∈ b.head?, p c = false) :
    (a ++ b).dropWhile p = a.dropWhile p ++ b := by
  induction a with
  | nil =>
    cases b with
    | nil => rfl
    | cons c b => simp [h rfl c rfl]
  | cons c a ih =>
    by_cases hc : p c = true
    · simp only [List.cons_append, List.dropWhile_cons_of_pos hc]
      exact ih fun he => h (by rwa [List.dropWhile_cons_of_pos hc])
    · simp only [List.cons_append, List.dropWhile_cons_of_neg hc]

end Spans

theorem literalTail_cons {c : Char} (hc : c ≠ '\\') (quote : Char) (rest : List Char) :
    literalTail quote (c :: rest) = if c = quote then ([c], rest)
      else (c :: (literalTail quote rest).1, (literalTail quote rest).2) := by
  rw [literalTail]
  · intro h
    exact absurd h hc
  · intro d tail h
    exact absurd h hc

theorem literalCloses_cons {c : Char} (hc : c ≠ '\\') (quote : Char) (rest : List Char) :
    literalCloses quote (c :: rest) = (decide (c = quote) || literalCloses quote rest) := by
  rw [literalCloses]
  · intro h
    exact absurd h hc
  · intro d tail h
    exact absurd h hc

theorem ne_backslash {c : Char} {rest : List Char} (h1 : c = '\\' → rest = [] → False)
    (h2 : ∀ d tail, c = '\\' → rest = d :: tail → False) : c ≠ '\\' := by
  intro h
  cases rest with
  | nil => exact h1 h rfl
  | cons d tail => exact h2 d tail h rfl

theorem literalTail_append_right {quote : Char} {a : List Char} (b : List Char)
    (h : literalCloses quote a = true) :
    literalTail quote (a ++ b) = ((literalTail quote a).1, (literalTail quote a).2 ++ b) := by
  fun_induction literalTail quote a with
  | case1 => cases h
  | case2 => cases h
  | case3 c rest tail ih =>
    rw [literalCloses] at h
    simp only [List.cons_append, literalTail, ih h, tail]
  | case4 rest h1 h2 =>
    rw [List.cons_append, literalTail_cons (ne_backslash h1 h2), if_pos rfl]
  | case5 c rest h1 h2 hc tail ih =>
    have hne := ne_backslash h1 h2
    rw [literalCloses_cons hne, decide_eq_false hc, Bool.false_or] at h
    rw [List.cons_append, literalTail_cons hne, if_neg hc, ih h]

theorem literalCloses_of_tail {quote : Char} {a : List Char} (h : (literalTail quote a).2 ≠ []) :
    literalCloses quote a = true := by
  fun_induction literalTail quote a with
  | case1 => exact absurd rfl h
  | case2 => exact absurd rfl h
  | case3 c rest tail ih =>
    rw [literalCloses]
    exact ih h
  | case4 rest h1 h2 =>
    rw [literalCloses_cons (ne_backslash h1 h2), decide_eq_true rfl, Bool.true_or]
  | case5 c rest h1 h2 hc tail ih =>
    rw [literalCloses_cons (ne_backslash h1 h2), ih h, Bool.or_true]

theorem fraction_cons_of_ne {c : Char} (hc : c ≠ '.') (rest : List Char) :
    fraction (c :: rest) = ([], c :: rest) := by
  rw [fraction]
  intro d tail h
  exact absurd (List.cons.inj h).1 hc

theorem fraction_append_right {a b : List Char} (h0 : a = [] → ∀ c ∈ b.head?, c ≠ '.')
    (h1 : a = ['.'] → ∀ c ∈ b.head?, c.isDigit = false)
    (h2 : a ≠ [] → (fraction a).2 = [] → ∀ c ∈ b.head?, c.isDigit = false) :
    fraction (a ++ b) = ((fraction a).1, (fraction a).2 ++ b) := by
  rcases a with _ | ⟨c, _ | ⟨d, a⟩⟩
  · cases b with
    | nil => rfl
    | cons c b => exact fraction_cons_of_ne (h0 rfl c rfl) b
  · by_cases hc : c = '.'
    · subst hc
      cases b with
      | nil => rfl
      | cons d b => simp [fraction, h1 rfl d rfl]
    · rw [List.cons_append, fraction_cons_of_ne hc, fraction_cons_of_ne hc]
      rfl
  · by_cases hc : c = '.'
    · subst hc
      by_cases hd : d.isDigit = true
      · simp only [fraction, hd, if_true] at h2
        have hstop := h2 (List.cons_ne_nil _ _)
        simp only [List.cons_append, fraction, hd, if_true, takeWhile_append_of_stop hstop,
          dropWhile_append_of_stop hstop]
      · simp only [List.cons_append, fraction, hd]
        rfl
    · rw [List.cons_append, fraction_cons_of_ne hc, fraction_cons_of_ne hc]
      rfl

theorem tokens_cons (c : Char) (rest : List Char) :
    tokens (c :: rest) = (firstToken c rest).1 :: tokens (firstToken c rest).2 := by
  rw [tokens]

namespace Stops

variable {c : Char} {rest b : List Char}

theorem tail (h : Stops (tokens (c :: rest)) b) : Stops (tokens (firstToken c rest).2) b := by
  intro t ht
  refine h t ?_
  rw [tokens_cons, List.getLast?_cons, Option.mem_def.1 ht]
  rfl

theorem last (h : Stops (tokens (c :: rest)) b) (he : (firstToken c rest).2 = []) :
    ∀ x ∈ b.head?, (firstToken c rest).1.stopsAt x = true := by
  refine h _ ?_
  rw [tokens_cons, he, tokens]
  rfl

end Stops

section FirstToken

variable {c : Char} (hb : isBlank c = false) (hw : isWordStart c = false) (hd : c.isDigit = false)
  (hq : ¬(c = '"' ∨ c = '\'')) {rest b : List Char}

theorem firstToken_of_blank (h : isBlank c = true) (rest : List Char) :
    firstToken c rest = (⟨.blank, c :: rest.takeWhile isBlank⟩, rest.dropWhile isBlank) := by
  simp only [firstToken, h, if_true]

include hb

theorem firstToken_of_word (h : isWordStart c = true) (rest : List Char) :
    firstToken c rest = (⟨.ident, c :: rest.takeWhile isWordChar⟩, rest.dropWhile isWordChar) := by
  simp only [firstToken, hb, h, if_true]
  rfl

include hw

theorem firstToken_of_digit (h : c.isDigit = true) (rest : List Char) :
    firstToken c rest =
      (⟨.number, c :: rest.takeWhile Char.isDigit ++ (fraction (rest.dropWhile Char.isDigit)).1⟩,
        (fraction (rest.dropWhile Char.isDigit)).2) := by
  simp only [firstToken, hb, hw, h, if_true]
  rfl

include hd

theorem firstToken_of_quote (h : c = '"' ∨ c = '\'') (rest : List Char) :
    firstToken c rest = (⟨.string, c :: (literalTail c rest).1⟩, (literalTail c rest).2) := by
  simp only [firstToken, hb, hw, hd, h, if_true]
  rfl

include hq

theorem firstToken_of_mark (rest : List Char) :
    firstToken c rest = match rest with
      | d :: rest' =>
        if doubleMarks.contains (c, d) then (⟨.punct, [c, d]⟩, rest') else (⟨.punct, [c]⟩, rest)
      | [] => (⟨.punct, [c]⟩, []) := by
  simp only [firstToken, hb, hw, hd, hq, if_false]
  rfl

omit hq hd hw hb

theorem tokens_point : tokens ['.'] = [⟨.punct, ['.']⟩] := by
  rw [tokens_cons, firstToken_of_mark (by decide) (by decide) (by decide) (by decide), tokens]

include hb hw

/-- A number looks one character past its point, so what follows a point at the end counts too. -/
theorem firstToken_append_of_digit (hd : c.isDigit = true) (h : Stops (tokens (c :: rest)) b) :
    firstToken c (rest ++ b) = ((firstToken c rest).1, (firstToken c rest).2 ++ b) := by
  have hlast := h.last
  have htail := h.tail
  rw [firstToken_of_digit hb hw hd] at hlast htail
  have hnumber : (fraction (rest.dropWhile Char.isDigit)).2 = [] →
      ∀ x ∈ b.head?, x.isDigit = false ∧ x ≠ '.' := by
    intro he x hx
    simpa [Token.stopsAt] using hlast he x hx
  have hstop : rest.dropWhile Char.isDigit = [] → ∀ x ∈ b.head?, x.isDigit = false := by
    intro he x hx
    exact (hnumber (by rw [he]; rfl) x hx).1
  have hpoint : rest.dropWhile Char.isDigit = ['.'] → ∀ x ∈ b.head?, x.isDigit = false := by
    intro he x hx
    rw [he, show (fraction ['.']).2 = ['.'] from rfl, tokens_point] at htail
    have hdot := htail ⟨.punct, ['.']⟩ rfl x hx
    simp only [Token.stopsAt, Bool.and_eq_true] at hdot
    simpa using hdot.2
  rw [firstToken_of_digit hb hw hd, firstToken_of_digit hb hw hd, takeWhile_append_of_stop hstop,
    dropWhile_append_of_stop hstop,
    fraction_append_right (fun he x hx => (hnumber (by rw [he]; rfl) x hx).2) hpoint
      fun _ he x hx => (hnumber he x hx).1]

include hd

theorem firstToken_append_of_quote (hq : c = '"' ∨ c = '\'') {x : Char}
    (h : Stops (tokens (c :: rest)) (x :: b)) :
    firstToken c (rest ++ x :: b) = ((firstToken c rest).1, (firstToken c rest).2 ++ x :: b) := by
  have hlast := h.last
  rw [firstToken_of_quote hb hw hd hq] at hlast
  have hclose : literalCloses c rest = true := by
    by_cases he : (literalTail c rest).2 = []
    · have hwhole := literalTail_append c rest
      rw [he, List.append_nil] at hwhole
      rw [← hwhole]
      exact hlast he x rfl
    · exact literalCloses_of_tail he
  rw [firstToken_of_quote hb hw hd hq, firstToken_of_quote hb hw hd hq,
    literalTail_append_right _ hclose]

include hq

theorem firstToken_append_of_mark {x : Char} (h : Stops (tokens (c :: rest)) (x :: b)) :
    firstToken c (rest ++ x :: b) = ((firstToken c rest).1, (firstToken c rest).2 ++ x :: b) := by
  have hlast := h.last
  rw [firstToken_of_mark hb hw hd hq] at hlast
  rw [firstToken_of_mark hb hw hd hq, firstToken_of_mark hb hw hd hq]
  cases rest with
  | nil =>
    have hdouble := hlast rfl x rfl
    simp only [Token.stopsAt, Bool.and_eq_true, Bool.not_eq_true'] at hdouble
    simp only [List.nil_append, hdouble.1]
    rfl
  | cons d rest =>
    simp only [List.cons_append]
    split <;> rfl

end FirstToken

/-- The first token is the same in a longer line. -/
theorem firstToken_append_right {c : Char} {rest b : List Char} (h : Stops (tokens (c :: rest)) b) :
    firstToken c (rest ++ b) = ((firstToken c rest).1, (firstToken c rest).2 ++ b) := by
  by_cases hb : isBlank c = true
  · have hlast := h.last
    rw [firstToken_of_blank hb] at hlast
    have hstop : rest.dropWhile isBlank = [] → ∀ x ∈ b.head?, isBlank x = false := by
      intro he x hx
      simpa [Token.stopsAt] using hlast he x hx
    rw [firstToken_of_blank hb, firstToken_of_blank hb, takeWhile_append_of_stop hstop,
      dropWhile_append_of_stop hstop]
  rw [Bool.not_eq_true] at hb
  by_cases hw : isWordStart c = true
  · have hlast := h.last
    rw [firstToken_of_word hb hw] at hlast
    have hstop : rest.dropWhile isWordChar = [] → ∀ x ∈ b.head?, isWordChar x = false := by
      intro he x hx
      simpa [Token.stopsAt] using hlast he x hx
    rw [firstToken_of_word hb hw, firstToken_of_word hb hw, takeWhile_append_of_stop hstop,
      dropWhile_append_of_stop hstop]
  rw [Bool.not_eq_true] at hw
  by_cases hd : c.isDigit = true
  · exact firstToken_append_of_digit hb hw hd h
  rw [Bool.not_eq_true] at hd
  cases b with
  | nil => simp only [List.append_nil]
  | cons x b =>
    by_cases hq : c = '"' ∨ c = '\''
    · exact firstToken_append_of_quote hb hw hd hq h
    · exact firstToken_append_of_mark hb hw hd hq h

/-- The tokens of a line whose first part ends before the second begins. -/
theorem tokens_append {a b : List Char} (h : Stops (tokens a) b) :
    tokens (a ++ b) = tokens a ++ tokens b := by
  fun_induction tokens a with
  | case1 => rfl
  | case2 c rest ih =>
    rw [← tokens_cons] at h
    rw [List.cons_append, tokens_cons, firstToken_append_right h, ih h.tail, List.cons_append]

end ExecutableUml.Action
