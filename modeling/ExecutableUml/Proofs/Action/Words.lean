import ExecutableUml.Proofs.Action.Canonical
import ExecutableUml.Proofs.Text.Trim

/-! The words of a line that is put together from names, marks and texts. Each part keeps its words,
and the text of an expression is what its words spell. -/

namespace ExecutableUml.Action

open Text

section Tokens

variable {c : Char} {s rest : List Char} {t : Token}

theorem blank_of_firstToken (h : (firstToken c rest).1.kind = .blank) : isBlank c = true := by
  unfold firstToken at h
  split at h
  · assumption
  · repeat' split at h
    all_goals cases h

theorem word_of_firstToken (h : (firstToken c rest).1.kind = .ident) :
    isBlank c = false ∧ isWordStart c = true := by
  unfold firstToken at h
  split at h
  · cases h
  · rename_i hb
    split at h
    · rename_i hw
      exact ⟨Bool.eq_false_iff.2 hb, hw⟩
    · repeat' split at h
      all_goals cases h

theorem blank_of_mem_tokens (h : t ∈ tokens s) (hk : t.kind = .blank) :
    t.chars ≠ [] ∧ ∀ c ∈ t.chars, isBlank c = true := by
  fun_induction tokens s with
  | case1 => cases h
  | case2 c rest ih =>
    rcases List.mem_cons.1 h with rfl | h
    · have hb := blank_of_firstToken hk
      rw [firstToken_of_blank hb]
      refine ⟨List.cons_ne_nil _ _, fun d hd => ?_⟩
      rcases List.mem_cons.1 hd with rfl | hd
      · exact hb
      · exact List.all_eq_true.1 List.all_takeWhile d hd
    · exact ih h

theorem getLast?_of_tokens (h : t ∈ (tokens s).getLast?) (hne : t.chars ≠ []) :
    s.getLast? = t.chars.getLast? := by
  obtain ⟨before, hts⟩ := List.getLast?_eq_some_iff.1 h
  rw [← spell_tokens s, hts, spell, List.flatMap_append, List.getLast?_append]
  simp only [List.flatMap_cons, List.flatMap_nil, List.append_nil]
  rw [List.getLast?_eq_some_getLast hne, Option.some_or]

theorem exists_last_token (h : s ≠ []) : ∃ t, t ∈ (tokens s).getLast? := by
  cases s with
  | nil => exact absurd rfl h
  | cons c rest =>
    rw [tokens_cons]
    exact ⟨_, List.getLast?_eq_some_getLast (List.cons_ne_nil _ _)⟩

end Tokens

/-- The last token of an expression is a closed one, and neither blank nor a semicolon. -/
theorem IsText.last_token {c : String} (h : IsText c) :
    ∃ t ∈ (tokens c.toList).getLast?,
      t.kind ≠ .blank ∧ t.isClosed = true ∧ t.isPunct ";" = false := by
  obtain ⟨t, ht⟩ := exists_last_token (mt String.toList_eq_nil_iff.1 h.ne_empty)
  have hmem := List.mem_of_getLast? ht
  refine ⟨t, ht, ?_, h.closed t hmem, ?_⟩
  · intro hk
    obtain ⟨hne, hall⟩ := blank_of_mem_tokens hmem hk
    have hl := getLast?_of_tokens ht hne
    rw [List.getLast?_eq_some_getLast hne] at hl
    have := last_of_trim h.trimmed _ hl
    rw [hall _ (List.getLast_mem hne)] at this
    cases this
  · rw [Bool.eq_false_iff]
    intro hp
    simp only [Token.isPunct, Bool.and_eq_true, beq_iff_eq] at hp
    have hl := getLast?_of_tokens ht (by rw [hp.2]; decide)
    rw [hp.2] at hl
    exact h.last hl

namespace IsName

variable {x : String}

theorem tokens (h : IsName x) : tokens x.toList = [⟨.ident, x.toList⟩] := by
  have hs := spell_tokens x.toList
  obtain ⟨t, ht, hk⟩ := List.map_eq_singleton_iff.1 h
  rw [ht] at hs ⊢
  simp only [spell, List.flatMap_cons, List.flatMap_nil, List.append_nil] at hs
  rw [← hk, ← hs]

theorem head (h : IsName x) (rest : List Char) :
    ∀ c ∈ (x.toList ++ rest).head?, isBlank c = false ∧ isWordStart c = true := by
  rw [IsName] at h
  cases hx : x.toList with
  | nil =>
    rw [hx, Action.tokens] at h
    cases h
  | cons c cs =>
    rw [hx, tokens_cons, List.map_cons] at h
    rintro _ ⟨⟩
    exact word_of_firstToken (List.cons.inj h).1

theorem wordChars (h : IsName x) : x.toList ≠ [] ∧ ∀ c ∈ x.toList, isWordChar c = true := by
  have hhead := h.head []
  have htokens := h.tokens
  cases hx : x.toList with
  | nil =>
    rw [hx, Action.tokens] at htokens
    cases htokens
  | cons c cs =>
    rw [hx] at hhead
    obtain ⟨hb, hw⟩ := hhead c rfl
    rw [hx, tokens_cons, firstToken_of_word hb hw] at htokens
    have htake : cs.takeWhile isWordChar = cs :=
      (List.cons.inj (congrArg Token.chars (List.cons.inj htokens).1)).2
    refine ⟨List.cons_ne_nil c cs, fun d hd => ?_⟩
    rcases List.mem_cons.1 hd with rfl | hd
    · exact isWordChar_of_isWordStart hw
    · rw [← htake] at hd
      exact List.all_eq_true.1 List.all_takeWhile d hd

theorem endsClean (h : IsName x) : EndsClean x := by
  obtain ⟨hne, hword⟩ := h.wordChars
  refine ⟨_, List.getLast?_eq_some_getLast hne, ?_⟩
  rw [Bool.eq_false_iff]
  intro hblank
  have hlast := hword _ (List.getLast_mem hne)
  rw [isWordChar_of_isBlank hblank] at hlast
  cases hlast

end IsName

namespace Token

/-- An expression ends before a blank, a closing parenthesis and a comma. -/
theorem stopsAt_separator {t : Token} (hk : t.kind ≠ .blank) (ht : t.isClosed = true) {c : Char}
    (hc : c = ' ' ∨ c = ')' ∨ c = ',') : t.stopsAt c = true := by
  obtain ⟨kind, chars⟩ := t
  have hword : isWordChar c = false := by rcases hc with rfl | rfl | rfl <;> decide
  have hnumber : (!c.isDigit && c != '.') = true := by rcases hc with rfl | rfl | rfl <;> decide
  have hdouble : ∀ m, doubleMarks.contains (m, c) = false := by
    rcases hc with rfl | rfl | rfl <;> simp [doubleMarks]
  cases kind with
  | blank => exact absurd rfl hk
  | ident => simp [stopsAt, hword]
  | number => exact hnumber
  | string => exact ht
  | punct =>
    simp only [Bool.and_eq_true, Bool.not_eq_true'] at hnumber
    simp only [stopsAt, hdouble, hnumber.1]
    split
    · simp
    · rfl

theorem not_digit_of_wordStart {c : Char} (h : isWordStart c = true) : c.isDigit = false := by
  rw [Bool.eq_false_iff]
  intro hd
  have hnot := of_isDigit (P := fun c => isWordStart c = false) (by decide) hd
  rw [h] at hnot
  cases hnot

theorem stopsAt_wordStart {m c : Char} (h : isWordStart c = true) :
    (⟨.punct, [m]⟩ : Token).stopsAt c = true := by
  have hmarks : ∀ p ∈ doubleMarks, isWordStart p.2 = false := by decide
  have hdouble : doubleMarks.contains (m, c) = false := by
    rw [Bool.eq_false_iff]
    intro hm
    have hc := hmarks _ (List.contains_iff_mem.1 hm)
    rw [h] at hc
    cases hc
  simp only [stopsAt, not_digit_of_wordStart h, hdouble, Bool.and_false, Bool.not_false,
    Bool.and_self]

end Token

/-- Marks that no character after them changes. -/
def plainMarks : List String := ["(", ")", "[", "]", ",", "->", "::"]

theorem stopsAt_plainMark {m : String} (h : m ∈ plainMarks) (c : Char) :
    (⟨.punct, m.toList⟩ : Token).stopsAt c = true := by
  simp only [plainMarks, List.mem_cons, List.not_mem_nil, or_false] at h
  rcases h with rfl | rfl | rfl | rfl | rfl | rfl | rfl <;> simp [Token.stopsAt, doubleMarks]

theorem tokens_mark :
    ∀ m ∈ plainMarks ++ [":", ".", "="], tokens m.toList = [⟨.punct, m.toList⟩] := by
  decide +kernel

def wordsFrom (gap s : List Char) : List Word := wordsAfter gap (tokens s)

def nameWord (gap : List Char) (x : String) : Word := ⟨gap, ⟨.ident, x.toList⟩⟩

def markWord (gap : List Char) (m : String) : Word := ⟨gap, ⟨.punct, m.toList⟩⟩

section Words

variable {gap : List Char} {ts us : List Token} {t : Token}

theorem wordsAfter_of_ne_blank (hk : t.kind ≠ .blank) :
    wordsAfter gap (t :: ts) = ⟨gap, t⟩ :: wordsAfter [] ts := by
  rw [wordsAfter, if_neg]
  rwa [Token.isBlank, beq_iff_eq]

theorem wordsAfter_append (ht : t ∈ ts.getLast?) (hk : t.kind ≠ .blank) :
    wordsAfter gap (ts ++ us) = wordsAfter gap ts ++ wordsAfter [] us := by
  induction ts generalizing gap with
  | nil => cases ht
  | cons u ts ih =>
    cases ts with
    | nil =>
      obtain rfl : u = t := by simpa using ht
      rw [List.singleton_append, wordsAfter_of_ne_blank hk, wordsAfter_of_ne_blank hk]
      rfl
    | cons v ts =>
      rw [List.getLast?_cons_cons] at ht
      rw [List.cons_append, wordsAfter, wordsAfter, ih ht, ih ht]
      split <;> rfl

theorem map_token_wordsAfter : (wordsAfter gap ts).map Word.token = significant ts := by
  induction ts generalizing gap with
  | nil => rfl
  | cons t ts ih =>
    rw [wordsAfter, significant, List.filter_cons]
    split <;> simp_all [significant]

/-- Blanks at the end belong to no word. -/
theorem flatMap_wordsAfter (ht : t ∈ ts.getLast?) (hk : t.kind ≠ .blank) :
    (wordsAfter gap ts).flatMap (fun v => v.gap ++ v.token.chars) = gap ++ spell ts := by
  induction ts generalizing gap with
  | nil => cases ht
  | cons u ts ih =>
    cases ts with
    | nil =>
      obtain rfl : u = t := by simpa using ht
      rw [wordsAfter_of_ne_blank hk]
      simp [wordsAfter, spell]
    | cons v ts =>
      rw [List.getLast?_cons_cons] at ht
      rw [wordsAfter]
      split
      · rw [ih ht]
        simp [spell]
      · rw [List.flatMap_cons, ih ht]
        simp [spell]

end Words

section Lines

variable {gap a b rest : List Char} {t : Token}

theorem wordsFrom_nil : wordsFrom gap [] = [] := by
  rw [wordsFrom, tokens, wordsAfter]

theorem map_token_wordsFrom (gap s : List Char) :
    (wordsFrom gap s).map Word.token = significant (tokens s) :=
  map_token_wordsAfter

theorem wordsFrom_append (ht : t ∈ (tokens a).getLast?) (hk : t.kind ≠ .blank)
    (hs : ∀ c ∈ b.head?, t.stopsAt c = true) :
    wordsFrom gap (a ++ b) = wordsFrom gap a ++ wordsFrom [] b := by
  have hstop : Stops (tokens a) b := by
    intro u hu
    rw [Option.mem_unique hu ht]
    exact hs
  rw [wordsFrom, tokens_append hstop, wordsAfter_append ht hk]
  rfl

theorem wordsFrom_token {k : TokenKind} (ha : tokens a = [⟨k, a⟩]) (hk : k ≠ .blank)
    (hs : ∀ c ∈ rest.head?, (⟨k, a⟩ : Token).stopsAt c = true) :
    wordsFrom gap (a ++ rest) = ⟨gap, ⟨k, a⟩⟩ :: wordsFrom [] rest := by
  rw [wordsFrom_append (by rw [ha]; rfl) hk hs, wordsFrom, ha, wordsAfter_of_ne_blank hk]
  rfl

theorem wordsFrom_name {x : String} (h : IsName x) (hr : ∀ c ∈ rest.head?, isWordChar c = false) :
    wordsFrom gap (x.toList ++ rest) = nameWord gap x :: wordsFrom [] rest := by
  refine wordsFrom_token h.tokens (by decide) fun c hc => ?_
  rw [Token.stopsAt, hr c hc]
  rfl

theorem wordsFrom_mark {m : String} (h : m ∈ plainMarks) :
    wordsFrom gap (m.toList ++ rest) = markWord gap m :: wordsFrom [] rest :=
  wordsFrom_token (tokens_mark m (List.mem_append_left _ h)) (by decide)
    fun c _ => stopsAt_plainMark h c

/-- Marks that may begin a longer one end before a blank and before a name. -/
theorem wordsFrom_mark_before {m : String} (h : m ∈ [":", ".", "="])
    (hr : ∀ c ∈ rest.head?, c = ' ' ∨ isWordStart c = true) :
    wordsFrom gap (m.toList ++ rest) = markWord gap m :: wordsFrom [] rest := by
  refine wordsFrom_token (tokens_mark m (List.mem_append_right _ h)) (by decide) fun c hc => ?_
  rcases hr c hc with hspace | hword
  · exact Token.stopsAt_separator TokenKind.noConfusion rfl (Or.inl hspace)
  · simp only [List.mem_cons, List.not_mem_nil, or_false] at h
    rcases h with rfl | rfl | rfl <;> exact Token.stopsAt_wordStart hword

theorem wordsFrom_space (hr : ∀ c ∈ rest.head?, isBlank c = false) :
    wordsFrom gap (' ' :: rest) = wordsFrom (gap ++ [' ']) rest := by
  have hs : tokens [' '] = [⟨.blank, [' ']⟩] := by
    rw [tokens_cons, firstToken_of_blank (by decide)]
    simp [tokens]
  have hstop : Stops (tokens [' ']) rest := by
    rw [hs]
    intro t ht c hc
    cases ht
    rw [Token.stopsAt, hr c hc]
    rfl
  rw [wordsFrom, ← List.singleton_append, tokens_append hstop, hs]
  rfl

theorem wordsFrom_text {c : String} (h : IsText c)
    (hr : ∀ x ∈ rest.head?, x = ' ' ∨ x = ')' ∨ x = ',') :
    wordsFrom gap (c.toList ++ rest) = wordsFrom gap c.toList ++ wordsFrom [] rest := by
  obtain ⟨t, ht, hk, hc, -⟩ := h.last_token
  exact wordsFrom_append ht hk fun x hx => t.stopsAt_separator hk hc (hr x hx)

end Lines

namespace IsText

variable {c : String} {gap : List Char}

theorem head (h : IsText c) (rest : List Char) :
    ∀ d ∈ (c.toList ++ rest).head?, isBlank d = false := by
  cases hc : c.toList with
  | nil => exact absurd (String.toList_eq_nil_iff.1 hc) h.ne_empty
  | cons d ds =>
    have hd := head_of_trim h.trimmed
    rw [hc] at hd
    exact hd

theorem endsClean (h : IsText c) : EndsClean c := by
  have hne := mt String.toList_eq_nil_iff.1 h.ne_empty
  have hlast := List.getLast?_eq_some_getLast hne
  exact ⟨_, hlast, last_of_trim h.trimmed _ hlast⟩

/-- The words of an expression are a first one, which starts at once, and others. -/
theorem wordsFrom_eq (h : IsText c) (gap : List Char) :
    ∃ t ts, tokens c.toList = t :: ts ∧ wordsFrom gap c.toList = ⟨gap, t⟩ :: wordsAfter [] ts := by
  have hhead := head_of_trim h.trimmed
  cases hc : c.toList with
  | nil => exact absurd (String.toList_eq_nil_iff.1 hc) h.ne_empty
  | cons d ds =>
    rw [hc] at hhead
    rw [wordsFrom, tokens_cons]
    refine ⟨_, _, rfl, wordsAfter_of_ne_blank fun hk => ?_⟩
    have hblank := hhead d rfl
    rw [blank_of_firstToken hk] at hblank
    cases hblank

theorem join_wordsFrom (h : IsText c) (gap : List Char) :
    Word.join (wordsFrom gap c.toList) = c := by
  obtain ⟨u, hu, hk, -⟩ := h.last_token
  obtain ⟨t, ts, hts, hw⟩ := h.wordsFrom_eq gap
  have hspell := spell_tokens c.toList
  rw [hts] at hu hspell
  rw [hw, Word.join, ← String.ofList_toList (s := c), ← hspell, spell, List.flatMap_cons]
  cases ts with
  | nil => rfl
  | cons v ts =>
    rw [List.getLast?_cons_cons] at hu
    rw [flatMap_wordsAfter hu hk]
    rfl

theorem last_word (h : IsText c) :
    ∀ w ∈ (wordsFrom gap c.toList).getLast?, w.isPunct ";" = false := by
  intro w hw
  obtain ⟨t, ht, hk, -, hp⟩ := h.last_token
  obtain ⟨before, hts⟩ := List.getLast?_eq_some_iff.1 ht
  have hlast : (significant (tokens c.toList)).getLast? = some t := by
    simp [hts, significant, Token.isBlank, hk]
  rw [← map_token_wordsFrom gap, List.getLast?_map, Option.mem_def.1 hw] at hlast
  rw [Word.isPunct, Option.some.inj hlast, hp]

end IsText

def nameWords (gap : List Char) : List String → List Word
  | [] => []
  | x :: xs => nameWord gap x :: nameWords [' '] xs

theorem phrase_cons_cons (x y : String) (ys : List String) :
    (phrase (x :: y :: ys)).toList = x.toList ++ ' ' :: (phrase (y :: ys)).toList := by
  simp [phrase, joinWith, String.toList_append]

theorem phrase_head {x : String} (xs : List String) (h : IsName x) (rest : List Char) :
    ∀ c ∈ ((phrase (x :: xs)).toList ++ rest).head?, isBlank c = false ∧ isWordStart c = true := by
  cases xs with
  | nil => exact h.head rest
  | cons y ys =>
    rw [phrase_cons_cons, List.append_assoc]
    exact h.head _

theorem phrase_endsClean {x : String} {xs : List String} (h : ∀ y ∈ x :: xs, IsName y) :
    EndsClean (phrase (x :: xs)) := by
  induction xs generalizing x with
  | nil => exact (h x List.mem_cons_self).endsClean
  | cons y ys ih =>
    have hy := ih fun z hz => h z (List.mem_cons_of_mem x hz)
    exact hy.append (x ++ " ")

theorem wordsFrom_phrase {gap rest : List Char} {x : String} {xs : List String}
    (h : ∀ y ∈ x :: xs, IsName y) (hr : ∀ c ∈ rest.head?, isWordChar c = false) :
    wordsFrom gap ((phrase (x :: xs)).toList ++ rest) =
      nameWords gap (x :: xs) ++ wordsFrom [] rest := by
  induction xs generalizing gap x with
  | nil => exact wordsFrom_name (h x List.mem_cons_self) hr
  | cons y ys ih =>
    have hy : ∀ z ∈ y :: ys, IsName z := fun z hz => h z (List.mem_cons_of_mem x hz)
    have hhead := phrase_head ys (hy y List.mem_cons_self) rest
    rw [phrase_cons_cons, List.append_assoc, List.cons_append,
      wordsFrom_name (h x List.mem_cons_self) (by rintro _ ⟨⟩; decide),
      wordsFrom_space fun c hc => (hhead c hc).1, ih hy]
    rfl

end ExecutableUml.Action
