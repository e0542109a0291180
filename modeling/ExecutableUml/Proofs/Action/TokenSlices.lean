import ExecutableUml.Proofs.Action.TokenBoundary

/-! Slices of a line at the ends of its tokens. A token looks at what stands behind it only to find
its own end, so that part of the line may be cut off: every run of neighbouring tokens, read by
itself, is the same run of tokens. -/

namespace ExecutableUml.Action

open Text

section Spans

variable {α : Type} {p : α → Bool} {r a b : List α}

/-- A run that ends before `a` ends there too when only `a` is left of what follows. -/
theorem span_cut (h : (r ++ (a ++ b)).dropWhile p = a ++ b) :
    (r ++ (a ++ b)).takeWhile p = r ∧ (r ++ a).takeWhile p = r ∧ (r ++ a).dropWhile p = a := by
  have htake : (r ++ (a ++ b)).takeWhile p = r := by
    have hwhole := List.takeWhile_append_dropWhile (p := p) (l := r ++ (a ++ b))
    rw [h] at hwhole
    exact List.append_cancel_right hwhole
  have hall : ∀ x ∈ r, p x = true := by
    intro x hx
    rw [← htake] at hx
    exact List.all_eq_true.1 List.all_takeWhile x hx
  have hstop : a.takeWhile p = [] ∧ a.dropWhile p = a := by
    cases a with
    | nil => exact ⟨rfl, rfl⟩
    | cons x a =>
      have hx := List.head?_dropWhile_not p (r ++ (x :: a ++ b))
      rw [h] at hx
      have hneg : ¬p x = true := by simpa using hx
      exact ⟨List.takeWhile_cons_of_neg hneg, List.dropWhile_cons_of_neg hneg⟩
  refine ⟨htake, ?_, ?_⟩
  · rw [List.takeWhile_append_of_pos hall, hstop.1, List.append_nil]
  · rw [List.dropWhile_append_of_pos hall, hstop.2]

end Spans

section Tails

variable {quote : Char} {r a b : List Char}

theorem literalTail_length (quote : Char) (s : List Char) :
    (literalTail quote s).2.length ≤ s.length := by
  have h := congrArg List.length (literalTail_append quote s)
  rw [List.length_append] at h
  omega

/-- A literal takes at least one character of the text behind its quote. -/
theorem literalTail_length_cons (quote c : Char) (s : List Char) :
    (literalTail quote (c :: s)).2.length ≤ s.length := by
  have hne : (literalTail quote (c :: s)).1 ≠ [] := by
    generalize hs : c :: s = whole
    fun_cases literalTail quote whole with
    | case1 => cases hs
    | _ => simp
  have h := congrArg List.length (literalTail_append quote (c :: s))
  have hpos := List.length_pos_iff.2 hne
  rw [List.length_append, List.length_cons] at h
  omega

/-- The induction is on what the literal takes; only its end looks at what follows. -/
theorem literalTail_cut (h : (literalTail quote (r ++ (a ++ b))).2 = a ++ b) :
    literalTail quote (r ++ a) = (r, a) := by
  fun_induction literalTail quote r with
  | case1 =>
    cases hab : a ++ b with
    | nil =>
      obtain ⟨rfl, -⟩ := List.append_eq_nil_iff.1 hab
      rfl
    | cons c s =>
      rw [List.nil_append, hab] at h
      have hlen := literalTail_length_cons quote c s
      rw [h, List.length_cons] at hlen
      omega
  | case2 =>
    cases hab : a ++ b with
    | nil =>
      obtain ⟨rfl, -⟩ := List.append_eq_nil_iff.1 hab
      rfl
    | cons c s =>
      rw [List.singleton_append, hab, literalTail] at h
      have hlen := literalTail_length quote s
      rw [h, List.length_cons] at hlen
      omega
  | case3 c rest tail ih =>
    rw [List.cons_append, List.cons_append, literalTail] at h
    rw [List.cons_append, List.cons_append, literalTail, ih h]
  | case4 rest h1 h2 =>
    have hne := ne_backslash h1 h2
    rw [List.cons_append, literalTail_cons hne, if_pos rfl] at h
    obtain rfl : rest = [] := by simpa using h
    rw [List.cons_append, literalTail_cons hne, if_pos rfl, List.nil_append]
  | case5 c rest h1 h2 hc tail ih =>
    have hne := ne_backslash h1 h2
    rw [List.cons_append, literalTail_cons hne, if_neg hc] at h
    rw [List.cons_append, literalTail_cons hne, if_neg hc, ih h]

theorem fraction_eq_nil {s : List Char}
    (h : ∀ d rest, s = '.' :: d :: rest → d.isDigit = false) : fraction s = ([], s) := by
  fun_cases fraction s with
  | case1 d rest hd =>
    rw [h d rest rfl] at hd
    cases hd
  | case2 d rest hd => rfl
  | case3 => rfl

theorem point_of_fraction {s : List Char} {c : Char} (h : (fraction s).1 = c :: r) :
    ∃ d rest, s = '.' :: d :: rest ∧ d.isDigit = true := by
  unfold fraction at h
  split at h
  · split at h
    · exact ⟨_, _, rfl, by assumption⟩
    · cases h
  · cases h

/-- A point at the end of what is left has no digit behind it, so it begins no fraction. -/
theorem fraction_cut (h : (fraction (r ++ (a ++ b))).2 = a ++ b) : fraction (r ++ a) = (r, a) := by
  have hsplit := fraction_append (r ++ (a ++ b))
  rw [h] at hsplit
  have hfst : (fraction (r ++ (a ++ b))).1 = r := List.append_cancel_right hsplit
  cases r with
  | nil =>
    refine fraction_eq_nil fun d rest ha => ?_
    rw [List.nil_append] at ha hfst
    rw [Bool.eq_false_iff]
    intro hd
    rw [ha, List.cons_append, List.cons_append, fraction, if_pos hd] at hfst
    cases hfst
  | cons c r =>
    obtain ⟨d, rest, hs, hd⟩ := point_of_fraction hfst
    rw [hs, fraction, if_pos hd] at h hfst
    have hrun : (rest.takeWhile Char.isDigit ++ (a ++ b)).dropWhile Char.isDigit = a ++ b := by
      rw [← h, List.takeWhile_append_dropWhile]
    obtain ⟨-, htake, hdrop⟩ := span_cut hrun
    rw [← hfst, List.cons_append, List.cons_append, fraction, if_pos hd, htake, hdrop]

end Tails

section FirstToken

variable {c : Char} {r a b : List Char}

/-- The digits of a number end before its fraction, and the fraction before what is left. -/
theorem number_cut (h : (fraction ((r ++ (a ++ b)).dropWhile Char.isDigit)).2 = a ++ b) :
    (r ++ a).takeWhile Char.isDigit = (r ++ (a ++ b)).takeWhile Char.isDigit ∧
      fraction ((r ++ a).dropWhile Char.isDigit) =
        ((fraction ((r ++ (a ++ b)).dropWhile Char.isDigit)).1, a) := by
  have hdigits := List.takeWhile_append_dropWhile (p := Char.isDigit) (l := r ++ (a ++ b))
  have hfraction := fraction_append ((r ++ (a ++ b)).dropWhile Char.isDigit)
  rw [h] at hfraction
  generalize (fraction ((r ++ (a ++ b)).dropWhile Char.isDigit)).1 = f at *
  generalize (r ++ (a ++ b)).takeWhile Char.isDigit = ds at *
  rw [← hfraction] at hdigits h
  obtain rfl : ds ++ f = r := by
    apply List.append_cancel_right
    rw [List.append_assoc]
    exact hdigits
  have hrun : (ds ++ (f ++ a ++ b)).dropWhile Char.isDigit = f ++ a ++ b := by
    simpa using hfraction.symm
  obtain ⟨-, htake, hdrop⟩ := span_cut hrun
  rw [List.append_assoc, htake, hdrop]
  exact ⟨rfl, fraction_cut h⟩

section Marks

variable (hb : isBlank c = false) (hw : isWordStart c = false) (hd : c.isDigit = false)
  (hq : ¬(c = '"' ∨ c = '\''))

include hb hw hd hq

theorem firstToken_double {d : Char} (h : doubleMarks.contains (c, d) = true) (rest : List Char) :
    firstToken c (d :: rest) = (⟨.punct, [c, d]⟩, rest) := by
  rw [firstToken_of_mark hb hw hd hq]
  exact if_pos h

theorem firstToken_single {s : List Char}
    (h : ∀ d ∈ s.head?, doubleMarks.contains (c, d) = false) :
    firstToken c s = (⟨.punct, [c]⟩, s) := by
  rw [firstToken_of_mark hb hw hd hq]
  cases s with
  | nil => rfl
  | cons d rest => exact if_neg (Bool.eq_false_iff.1 (h d rfl))

/-- A mark takes a second character only into a double mark. -/
theorem firstToken_cut_of_mark (h : (firstToken c (r ++ (a ++ b))).2 = a ++ b) :
    firstToken c (r ++ a) = ((firstToken c (r ++ (a ++ b))).1, a) := by
  cases r with
  | nil =>
    have hsingle : ∀ d ∈ (a ++ b).head?, doubleMarks.contains (c, d) = false := by
      intro d hmem
      obtain ⟨rest, hs⟩ := List.head?_eq_some_iff.1 hmem
      rw [Bool.eq_false_iff]
      intro hdouble
      rw [List.nil_append, hs, firstToken_double hb hw hd hq hdouble] at h
      exact List.cons_ne_self d rest h.symm
    rw [List.nil_append, List.nil_append, firstToken_single hb hw hd hq hsingle]
    refine firstToken_single hb hw hd hq fun d hmem => hsingle d ?_
    rw [List.head?_append, Option.mem_def.1 hmem]
    rfl
  | cons d r =>
    cases hdouble : doubleMarks.contains (c, d) with
    | false =>
      have hsingle : ∀ x ∈ (d :: r ++ (a ++ b)).head?, doubleMarks.contains (c, x) = false := by
        rintro x ⟨⟩
        exact hdouble
      rw [firstToken_single hb hw hd hq hsingle] at h
      cases List.append_left_eq_self.1 h
    | true =>
      rw [List.cons_append, firstToken_double hb hw hd hq hdouble] at h
      obtain rfl := List.append_left_eq_self.1 h
      rw [List.cons_append, List.cons_append, firstToken_double hb hw hd hq hdouble,
        firstToken_double hb hw hd hq hdouble]
      rfl

end Marks

/-- What stands behind a token may be cut off anywhere. -/
theorem firstToken_cut (h : (firstToken c (r ++ (a ++ b))).2 = a ++ b) :
    firstToken c (r ++ a) = ((firstToken c (r ++ (a ++ b))).1, a) := by
  by_cases hb : isBlank c = true
  · rw [firstToken_of_blank hb] at h ⊢
    obtain ⟨hwhole, htake, hdrop⟩ := span_cut h
    rw [firstToken_of_blank hb, htake, hdrop, hwhole]
  rw [Bool.not_eq_true] at hb
  by_cases hw : isWordStart c = true
  · rw [firstToken_of_word hb hw] at h ⊢
    obtain ⟨hwhole, htake, hdrop⟩ := span_cut h
    rw [firstToken_of_word hb hw, htake, hdrop, hwhole]
  rw [Bool.not_eq_true] at hw
  by_cases hd : c.isDigit = true
  · rw [firstToken_of_digit hb hw hd] at h ⊢
    obtain ⟨hdigits, hfraction⟩ := number_cut h
    rw [firstToken_of_digit hb hw hd, hdigits, hfraction]
  rw [Bool.not_eq_true] at hd
  by_cases hq : c = '"' ∨ c = '\''
  · rw [firstToken_of_quote hb hw hd hq] at h ⊢
    have hwhole := literalTail_append c (r ++ (a ++ b))
    rw [h] at hwhole
    rw [firstToken_of_quote hb hw hd hq, literalTail_cut h, List.append_cancel_right hwhole]
  exact firstToken_cut_of_mark hb hw hd hq h

end FirstToken

theorem spell_append (ts us : List Token) : spell (ts ++ us) = spell ts ++ spell us :=
  List.flatMap_append

/-- A token and a part of what follows it: the token stays the first one. -/
theorem tokens_cut {s a b : List Char} {t : Token} {ts : List Token} (hts : tokens s = t :: ts)
    (hab : spell ts = a ++ b) : tokens (t.chars ++ a) = t :: tokens a := by
  cases s with
  | nil =>
    rw [tokens] at hts
    cases hts
  | cons c rest =>
    rw [tokens_cons] at hts
    obtain ⟨ht, hrest⟩ := List.cons.inj hts
    have hbehind : (firstToken c rest).2 = a ++ b := by rw [← hab, ← hrest, spell_tokens]
    have hwhole := firstToken_append c rest
    rw [ht, hbehind] at hwhole
    obtain ⟨x, r, hchars⟩ := List.exists_cons_of_ne_nil (firstToken_chars_ne_nil c rest)
    rw [ht] at hchars
    rw [hchars, List.cons_append] at hwhole
    obtain ⟨rfl, rfl⟩ := List.cons.inj hwhole
    rw [hchars, List.cons_append, tokens_cons, firstToken_cut hbehind, ht]

theorem tokens_spell_tail {s : List Char} {t : Token} {ts : List Token} (h : tokens s = t :: ts) :
    tokens (spell ts) = ts := by
  cases s with
  | nil =>
    rw [tokens] at h
    cases h
  | cons c rest =>
    rw [tokens_cons] at h
    rw [← (List.cons.inj h).2, spell_tokens]

section Ranges

variable {s : List Char} {before range after : List Token}

theorem tokens_spell_suffix (h : tokens s = before ++ after) : tokens (spell after) = after := by
  induction before generalizing s with
  | nil =>
    rw [List.nil_append] at h
    rw [← h, spell_tokens]
  | cons t before ih => exact ih (tokens_spell_tail h)

theorem tokens_spell_front (h : tokens s = range ++ after) : tokens (spell range) = range := by
  induction range generalizing s with
  | nil => rw [spell, List.flatMap_nil, tokens]
  | cons t range ih =>
    have hrange := ih (tokens_spell_tail h)
    have hcut := tokens_cut h (spell_append range after)
    rw [hrange] at hcut
    exact hcut

/-- A run of neighbouring tokens, read by itself, is that run. -/
theorem tokens_spell_isInfix (h : range <:+: tokens s) : tokens (spell range) = range := by
  obtain ⟨before, after, hs⟩ := h
  rw [List.append_assoc] at hs
  exact tokens_spell_front (tokens_spell_suffix hs.symm)

end Ranges

end ExecutableUml.Action
