import ExecutableUml.Proofs.Action.CutTexts
import ExecutableUml.Proofs.Action.TokenPartition
import Mathlib.Data.List.Basic

/-! Text cut out of a line at the ends of tokens is read as the tokens it was cut from. Expressions
are read as texts of their own: the ones that a statement holds, and the arguments of the calls
inside an expression, at whatever depth. -/

namespace ExecutableUml.Action

open Text

section Edges

variable {kind : TokenKind} {cs : List Char}

theorem not_blank_of_wordChar {c : Char} (h : isWordChar c = true) : isBlank c = false := by
  rw [Bool.eq_false_iff]
  intro hb
  rw [isWordChar_of_isBlank hb] at h
  cases h

theorem Lexeme.head_not_blank (hk : kind ≠ .blank) (h : Lexeme kind cs) :
    ∀ c ∈ cs.head?, isBlank c = false := by
  cases h with
  | blank => exact absurd rfl hk
  | ident hc _ =>
    rintro _ ⟨⟩
    exact not_blank_of_wordStart hc
  | whole h =>
    rintro _ ⟨⟩
    exact (not_word_of_digit (h _ List.mem_cons_self)).1
  | decimal h _ =>
    rintro _ ⟨⟩
    exact (not_word_of_digit (h _ List.mem_cons_self)).1
  | string hq _ =>
    rintro _ ⟨⟩
    rcases hq with rfl | rfl <;> decide
  | double h =>
    rintro _ ⟨⟩
    exact (double_not_other h).1
  | single hb =>
    rintro _ ⟨⟩
    exact hb

theorem getLast?_cons_of {α : Type} {l : List α} {x : α} (h : l.getLast? = some x) (y : α) :
    (y :: l).getLast? = some x := by
  rw [List.getLast?_cons, h, Option.getD_some]

/-- A literal that is closed ends in its quote. -/
theorem LiteralBody.last {quote : Char} {body : List Char} (h : LiteralBody quote body)
    (hclosed : literalCloses quote body = true) : body.getLast? = some quote := by
  induction h with
  | closed => rfl
  | cutOff => cases hclosed
  | backslash => cases hclosed
  | escaped c h ih =>
    rw [literalCloses] at hclosed
    exact getLast?_cons_of (getLast?_cons_of (ih hclosed) c) _
  | plain hc hne h ih =>
    rw [literalCloses_cons hc, decide_eq_false hne, Bool.false_or] at hclosed
    exact getLast?_cons_of (ih hclosed) _

theorem Lexeme.last_not_blank (hk : kind ≠ .blank) (h : Lexeme kind cs)
    (hclosed : (⟨kind, cs⟩ : Token).isClosed = true) : ∀ c ∈ cs.getLast?, isBlank c = false := by
  intro c hlast
  have hmem := List.mem_of_mem_getLast? hlast
  cases h with
  | blank => exact absurd rfl hk
  | ident hc hcs =>
    refine not_blank_of_wordChar ?_
    rcases List.mem_cons.1 hmem with rfl | hmem
    · exact isWordChar_of_isWordStart hc
    · exact hcs c hmem
  | whole h => exact (not_word_of_digit (h c hmem)).1
  | @decimal _ d _ ds _ hd =>
    rw [List.getLast?_append_of_ne_nil _ (List.cons_ne_nil _ _), List.getLast?_cons_cons] at hlast
    exact (not_word_of_digit (hd c (List.mem_of_mem_getLast? hlast))).1
  | @string quote body hq h =>
    have hquote := getLast?_cons_of (h.last hclosed) quote
    obtain rfl := Option.mem_unique hlast hquote
    rcases hq with rfl | rfl <;> decide
  | @double _ d h =>
    have hmarks : ∀ p ∈ doubleMarks, isBlank p.2 = false := by decide
    cases hlast
    exact hmarks _ (List.contains_iff_mem.1 h)
  | single hb =>
    rw [List.mem_singleton.1 hmem]
    exact hb

end Edges

section Trimmed

variable {s : List Char} {t : Token} {range : List Token}

theorem Token.isBlank_iff : t.isBlank = true ↔ t.kind = .blank := beq_iff_eq

theorem Token.isBlank_eq_false_iff : t.isBlank = false ↔ t.kind ≠ .blank := beq_eq_false_iff_ne

/-- In a line without blanks at its edges, a token has none at its own, unless it is all blank. -/
theorem last_of_mem_tokens (hs : trim s = s) (ht : t ∈ tokens s) (hk : t.isBlank = false) :
    ∀ c ∈ t.chars.getLast?, isBlank c = false := by
  have hlexeme := lexeme_of_mem_tokens ht
  obtain ⟨before, after, hsplit⟩ := List.append_of_mem ht
  cases after with
  | nil =>
    have hlast : t ∈ (tokens s).getLast? := by
      rw [hsplit, List.getLast?_concat]
      rfl
    rw [← getLast?_of_tokens hlast hlexeme.ne_nil]
    exact last_of_trim hs
  | cons u after =>
    exact hlexeme.last_not_blank (Token.isBlank_eq_false_iff.1 hk) (closed_of_neighbour hsplit)

theorem trimStart_spell (h : ∀ t ∈ range, t ∈ tokens s) :
    trimStart (spell range) = spell (range.dropWhile Token.isBlank) := by
  induction range with
  | nil => rfl
  | cons t range ih =>
    obtain ⟨ht, hrange⟩ := List.forall_mem_cons.1 h
    cases hk : t.isBlank with
    | true =>
      have hblank := (blank_of_mem_tokens ht (Token.isBlank_iff.1 hk)).2
      rw [List.dropWhile_cons_of_pos hk, ← ih hrange, trimStart, spell, List.flatMap_cons,
        List.dropWhile_append_of_pos hblank]
      rfl
    | false =>
      have hlexeme := lexeme_of_mem_tokens ht
      obtain ⟨c, cs, hchars⟩ := List.exists_cons_of_ne_nil hlexeme.ne_nil
      have hc : isBlank c = false :=
        hlexeme.head_not_blank (Token.isBlank_eq_false_iff.1 hk) c (by rw [hchars]; rfl)
      rw [List.dropWhile_cons_of_neg (by simp [hk]), trimStart, spell, List.flatMap_cons, hchars,
        List.cons_append, List.dropWhile_cons_of_neg (by simp [hc])]

theorem last_dropTrailing (p : Token → Bool) (ts : List Token) :
    ∀ t ∈ (dropTrailing p ts).getLast?, p t = false := by
  intro t ht
  have hhead := List.head?_dropWhile_not p ts.reverse
  rw [← List.getLast?_reverse, ← dropTrailing, Option.mem_def.1 ht] at hhead
  simpa using hhead

theorem trimEnd_spell (hs : trim s = s) (h : range <:+: tokens s) :
    trimEnd (spell range) = spell (dropTrailing Token.isBlank range) := by
  obtain ⟨blanks, hrange, hblanks⟩ := dropTrailing_takes Token.isBlank range
  have hlast := last_dropTrailing Token.isBlank range
  generalize dropTrailing Token.isBlank range = kept at *
  subst hrange
  have hmem : ∀ t ∈ kept ++ blanks, t ∈ tokens s := fun t ht => h.subset ht
  have htail : ∀ c ∈ spell blanks, isBlank c = true := by
    intro c hc
    obtain ⟨t, ht, hc⟩ := List.mem_flatMap.1 hc
    have hkind := Token.isBlank_iff.1 (hblanks t ht)
    exact (blank_of_mem_tokens (hmem t (List.mem_append_right kept ht)) hkind).2 c hc
  rw [spell_append, trimEnd_append htail]
  refine trimEnd_eq_self ?_
  cases hk : kept.getLast? with
  | none =>
    rw [List.getLast?_eq_none_iff.1 hk]
    rintro _ ⟨⟩
  | some t =>
    obtain ⟨front, rfl⟩ := List.getLast?_eq_some_iff.1 hk
    have ht := hmem t (by simp)
    intro c hc
    refine last_of_mem_tokens hs ht (hlast t hk) c ?_
    have hspell : spell [t] = t.chars := by simp [spell]
    have hne := (lexeme_of_mem_tokens ht).ne_nil
    rwa [spell_append, hspell, List.getLast?_append_of_ne_nil _ hne] at hc

/-- Blanks at the edges of the text are blank tokens at the edges of the range. -/
theorem trim_spell (hs : trim s = s) (h : range <:+: tokens s) :
    trim (spell range) = spell (unpadded range) := by
  rw [trim, trimStart_spell fun t ht => h.subset ht, unpadded]
  exact trimEnd_spell hs ((List.dropWhile_suffix Token.isBlank).isInfix.trans h)

end Trimmed

/-- The range is made of neighbouring tokens of the line, and its text by itself is read as the
range: token for token, and as an expression. -/
def ReadsAlone (line : List Char) (range : List Token) : Prop :=
  range <:+: tokens line ∧ tokens (spell range) = range ∧
    parseExpression (String.ofList (spell range)) = pieces (fragment range)

theorem readsAlone_of_isInfix {line : List Char} {range : List Token} (hline : trim line = line)
    (h : range <:+: tokens line) : ReadsAlone line range := by
  refine ⟨h, tokens_spell_isInfix h, ?_⟩
  obtain ⟨before, after, hrange, -⟩ := unpadded_takes range
  have hinner : unpadded range <:+: range := ⟨before, after, by rw [List.append_assoc, ← hrange]⟩
  rw [parseExpression, String.toList_ofList, trim_spell hline h,
    tokens_spell_isInfix (hinner.trans h), fragment_unpadded]

def shifted (n : Nat) (p : Token × Span) : Token × Span := (p.1, ⟨n + p.2.start, n + p.2.stop⟩)

theorem located_shifted (m n : Nat) (ts : List Token) :
    located (n + m) ts = (located m ts).map (shifted n) := by
  induction ts generalizing m with
  | nil => rfl
  | cons t ts ih => rw [located, located, List.map_cons, ← ih, Nat.add_assoc]; rfl

theorem located_range {line : List Char} {before range after : List (Token × Span)}
    (h : located 0 (tokens line) = before ++ (range ++ after)) :
    range = (located 0 (tokens (spell (range.map Prod.fst)))).map
      (shifted (byteLength (spell (before.map Prod.fst)))) := by
  have hbehind := (located_split h).2
  have hrange := (located_split hbehind.symm).1
  have hinfix : range.map Prod.fst <:+: tokens line := by
    refine ⟨before.map Prod.fst, after.map Prod.fst, ?_⟩
    rw [← map_fst_located 0 (tokens line), h, List.map_append, List.map_append, List.append_assoc]
  rw [tokens_spell_isInfix hinfix, ← located_shifted]
  rwa [Nat.zero_add] at hrange

/-- The tokens that reading an expression comes to: what stands behind a construct, and what
stands inside of it. -/
inductive Reaches (ts : List Token) : List Token → Prop where
  | start : Reaches ts ts
  | behind {t : Token} {us : List Token} (h : Reaches ts (t :: us)) : Reaches ts (construct t us).2
  | inside {t : Token} {us vs : List Token} (h : Reaches ts (t :: us))
      (hv : vs ∈ (construct t us).1.inner) : Reaches ts vs

def argumentSources (inside : List Token) : List (Option String × List Token) :=
  (splitArguments 0 inside).filterMap argumentSource

theorem argumentParts_eq (inside : List Token) :
    argumentParts inside = (argumentSources inside).map fun a => (a.1, fragment a.2) := by
  rw [argumentParts, argumentSources, List.map_filterMap, funext argumentPart_eq]

section Infixes

variable {ts vs inside : List Token}

theorem fragment_isInfix (ts : List Token) : fragment ts <:+: ts := by
  obtain ⟨before, after, hts, -⟩ := fragment_takes ts
  exact ⟨before, after, by rw [List.append_assoc, ← hts]⟩

theorem argumentSources_isInfix {a : Option String × List Token} (h : a ∈ argumentSources inside) :
    a.2 <:+: inside := by
  obtain ⟨part, hpart, hsource⟩ := List.mem_filterMap.1 h
  obtain ⟨before, after, hvalue, -⟩ := argumentSource_takes hsource
  have ha : a.2 <:+: part := ⟨before, after, by rw [List.append_assoc, ← hvalue]⟩
  exact ha.trans ((parted_splitArguments 0 inside).isInfix hpart)

theorem construct_isInfix (t : Token) (us : List Token) :
    (construct t us).2 <:+: us ∧ ∀ vs ∈ (construct t us).1.inner, vs <:+: us := by
  have htakes := construct_takes t us
  generalize construct t us = c at *
  cases htakes with
  | copy => exact ⟨List.infix_refl us, List.forall_mem_nil _⟩
  | @leaf c taken rest hc hts ht =>
    have hinner : c.inner = [] := by
      cases c with
      | copy | test | call => cases hc
      | _ => rfl
    rw [hinner, hts]
    exact ⟨(List.suffix_append taken rest).isInfix, List.forall_mem_nil _⟩
  | @test kind gap operand rest hts ht =>
    rw [hts]
    refine ⟨(List.suffix_append (gap :: operand) rest).isInfix, ?_⟩
    exact List.forall_mem_singleton.2 ⟨[gap], rest, by simp⟩
  | @call callee opening inside rest close hts ht hclose =>
    rw [hts]
    refine ⟨⟨opening ++ inside ++ [close], [], by simp⟩, ?_⟩
    have hinside : inside <:+: opening ++ (inside ++ close :: rest) :=
      ⟨opening, close :: rest, by simp⟩
    rw [Construct.inner, argumentParts_eq, List.map_map]
    refine List.forall_mem_map.2 fun a ha => ?_
    exact ((fragment_isInfix a.2).trans (argumentSources_isInfix ha)).trans hinside

theorem Reaches.isInfix (h : Reaches ts vs) : vs <:+: ts := by
  induction h with
  | start => exact List.infix_refl ts
  | @behind t us h ih =>
    exact ((construct_isInfix t us).1.trans (List.suffix_cons t us).isInfix).trans ih
  | @inside t us vs h hv ih =>
    exact (((construct_isInfix t us).2 vs hv).trans (List.suffix_cons t us).isInfix).trans ih

end Infixes

/-- Reading commutes with cutting at the ends of tokens. -/
structure Relexes (line : String) : Prop where
  ranges : ∀ before range after, located 0 (tokens line.toList) = before ++ (range ++ after) →
    range = (located 0 (tokens (spell (range.map Prod.fst)))).map
      (shifted (byteLength (spell (before.map Prod.fst))))
  expressions : ∀ e ∈ (parseLine line).expressions,
    ∃ range, e = String.ofList (spell range) ∧ ReadsAlone (trim line.toList) range
  arguments : ∀ t us callee args rest, Reaches (fragment (tokens (trim line.toList))) (t :: us) →
    construct t us = (.call callee args, rest) →
      ∃ opening inside close, us = opening ++ (inside ++ close :: rest) ∧
        args = (argumentSources inside).map (fun a => (a.1, fragment a.2)) ∧
        ∀ a ∈ argumentSources inside, ReadsAlone (trim line.toList) a.2

/-- Every range of the tokens of a line, every expression that its statement holds and every
argument of a call inside an expression is read by itself as the tokens it was cut from. -/
theorem slices_relex (line : String) : Relexes line := by
  constructor
  case ranges => exact fun before range after => located_range
  case expressions =>
    intro e he
    obtain ⟨range, hrange, hspell⟩ := expressions_cut he
    refine ⟨range, by rw [← hspell, String.ofList_toList], ?_⟩
    exact readsAlone_of_isInfix (trim_trim line.toList) hrange
  case arguments =>
    intro t us callee args rest hreach hcall
    have htakes := construct_takes t us
    rw [hcall] at htakes
    cases htakes with
    | leaf hc => cases hc
    | @call _ opening inside _ close hus =>
      refine ⟨opening, inside, close, hus, argumentParts_eq inside, fun a ha => ?_⟩
      have hinside : inside <:+: t :: us := ⟨t :: opening, close :: rest, by rw [hus]; simp⟩
      have hwhole := hreach.isInfix.trans (fragment_isInfix _)
      exact readsAlone_of_isInfix (trim_trim line.toList)
        (((argumentSources_isInfix ha).trans hinside).trans hwhole)

example :
    (argumentSources (tokens "x: b::g('(') , 1 ".toList)).map (fun a => (a.1, spell a.2)) =
      [(some "x", "b::g('(')".toList), (none, " 1 ".toList)] := by
  decide +kernel

end ExecutableUml.Action
