import ExecutableUml.Proofs.Action.TokenSlices
import ExecutableUml.Proofs.Action.Words
import ExecutableUml.Proofs.Text.Bytes
import Mathlib.Data.List.TakeWhile

/-! The tokens of a line are a partition of it by longest match. What may stand in a token of each
kind is said by `Lexeme`, without reading; the first token of a line is the longest lexeme at its
start, and the ranges of the tokens lie end to end. -/

namespace ExecutableUml.Action

open Text

/-- What may follow an opening quote: escaped and other characters, then the closing quote or the
end of the line. -/
inductive LiteralBody (quote : Char) : List Char → Prop where
  | closed : LiteralBody quote [quote]
  | cutOff : LiteralBody quote []
  | backslash : LiteralBody quote ['\\']
  | escaped (c : Char) {rest : List Char} (h : LiteralBody quote rest) :
      LiteralBody quote ('\\' :: c :: rest)
  | plain {c : Char} {rest : List Char} (hc : c ≠ '\\') (hq : c ≠ quote)
      (h : LiteralBody quote rest) : LiteralBody quote (c :: rest)

/-- The texts of tokens, by kind. -/
inductive Lexeme : TokenKind → List Char → Prop where
  | blank {c : Char} {cs : List Char} (h : ∀ d ∈ c :: cs, isBlank d = true) :
      Lexeme .blank (c :: cs)
  | ident {c : Char} {cs : List Char} (hc : isWordStart c = true)
      (hcs : ∀ d ∈ cs, isWordChar d = true) : Lexeme .ident (c :: cs)
  | whole {c : Char} {cs : List Char} (h : ∀ d ∈ c :: cs, d.isDigit = true) :
      Lexeme .number (c :: cs)
  | decimal {c d : Char} {cs ds : List Char} (hc : ∀ x ∈ c :: cs, x.isDigit = true)
      (hd : ∀ x ∈ d :: ds, x.isDigit = true) : Lexeme .number (c :: cs ++ '.' :: d :: ds)
  | string {quote : Char} {body : List Char} (hq : quote = '"' ∨ quote = '\'')
      (h : LiteralBody quote body) : Lexeme .string (quote :: body)
  | double {c d : Char} (h : doubleMarks.contains (c, d) = true) : Lexeme .punct [c, d]
  | single {c : Char} (hb : isBlank c = false) (hw : isWordStart c = false)
      (hd : c.isDigit = false) (hq : ¬(c = '"' ∨ c = '\'')) : Lexeme .punct [c]

theorem literalBody_literalTail (quote : Char) (s : List Char) :
    LiteralBody quote (literalTail quote s).1 := by
  fun_induction literalTail quote s with
  | case1 => exact .cutOff
  | case2 => exact .backslash
  | case3 c rest tail ih => exact .escaped c ih
  | case4 rest h1 h2 => exact .closed
  | case5 c rest h1 h2 hc tail ih => exact .plain (ne_backslash h1 h2) hc ih

theorem literalTail_of_body {quote : Char} (hq : quote = '"' ∨ quote = '\'') {body : List Char}
    (h : LiteralBody quote body) : literalTail quote body = (body, []) := by
  induction h with
  | closed =>
    have hne : quote ≠ '\\' := by
      rcases hq with rfl | rfl <;> decide
    rw [literalTail_cons hne, if_pos rfl]
  | cutOff => rfl
  | backslash => rfl
  | escaped c h ih => rw [literalTail, ih]
  | plain hc hq h ih => rw [literalTail_cons hc, if_neg hq, ih]

theorem not_blank_of_wordStart {c : Char} (h : isWordStart c = true) : isBlank c = false := by
  rw [Bool.eq_false_iff]
  intro hb
  have hw := isWordChar_of_isWordStart h
  rw [isWordChar_of_isBlank hb] at hw
  cases hw

theorem not_word_of_digit {c : Char} (h : c.isDigit = true) :
    isBlank c = false ∧ isWordStart c = false :=
  of_isDigit (P := fun c => isBlank c = false ∧ isWordStart c = false) (by decide) h

theorem double_not_other {c d : Char} (h : doubleMarks.contains (c, d) = true) :
    isBlank c = false ∧ isWordStart c = false ∧ c.isDigit = false ∧ ¬(c = '"' ∨ c = '\'') := by
  have hmarks : ∀ p ∈ doubleMarks, isBlank p.1 = false ∧ isWordStart p.1 = false ∧
      p.1.isDigit = false ∧ ¬(p.1 = '"' ∨ p.1 = '\'') := by decide
  exact hmarks _ (List.contains_iff_mem.1 h)

/-- A lexeme is one token: the classes of its characters leave no other reading. -/
theorem firstToken_of_lexeme {kind : TokenKind} {c : Char} {cs : List Char}
    (h : Lexeme kind (c :: cs)) : firstToken c cs = (⟨kind, c :: cs⟩, []) := by
  generalize hs : c :: cs = s at h
  cases h with
  | blank h =>
    obtain ⟨rfl, rfl⟩ := List.cons.inj hs
    obtain ⟨hc, hcs⟩ := List.forall_mem_cons.1 h
    rw [firstToken_of_blank hc, List.takeWhile_eq_self_iff.2 hcs, List.dropWhile_eq_nil_iff.2 hcs]
  | ident hc hcs =>
    obtain ⟨rfl, rfl⟩ := List.cons.inj hs
    rw [firstToken_of_word (not_blank_of_wordStart hc) hc, List.takeWhile_eq_self_iff.2 hcs,
      List.dropWhile_eq_nil_iff.2 hcs]
  | whole h =>
    obtain ⟨rfl, rfl⟩ := List.cons.inj hs
    obtain ⟨hc, hcs⟩ := List.forall_mem_cons.1 h
    obtain ⟨hb, hw⟩ := not_word_of_digit hc
    rw [firstToken_of_digit hb hw hc, List.takeWhile_eq_self_iff.2 hcs,
      List.dropWhile_eq_nil_iff.2 hcs]
    simp [fraction]
  | @decimal c d cs ds h hd =>
    obtain ⟨rfl, rfl⟩ := List.cons.inj hs
    obtain ⟨hc, hcs⟩ := List.forall_mem_cons.1 h
    obtain ⟨hhead, hds⟩ := List.forall_mem_cons.1 hd
    obtain ⟨hb, hw⟩ := not_word_of_digit hc
    have hrun : (cs ++ ('.' :: d :: ds ++ [])).dropWhile Char.isDigit = '.' :: d :: ds ++ [] := by
      rw [List.dropWhile_append_of_pos hcs]
      rfl
    obtain ⟨-, htake, hdrop⟩ := span_cut hrun
    change firstToken c (cs ++ '.' :: d :: ds) = _
    rw [firstToken_of_digit hb hw hc, htake, hdrop, fraction, if_pos hhead,
      List.takeWhile_eq_self_iff.2 hds, List.dropWhile_eq_nil_iff.2 hds]
  | string hq h =>
    obtain ⟨rfl, rfl⟩ := List.cons.inj hs
    obtain ⟨hb, hw, hd⟩ : isBlank c = false ∧ isWordStart c = false ∧ c.isDigit = false := by
      rcases hq with rfl | rfl <;> decide
    rw [firstToken_of_quote hb hw hd hq, literalTail_of_body hq h]
  | double h =>
    obtain ⟨rfl, rfl⟩ := List.cons.inj hs
    obtain ⟨hb, hw, hd, hq⟩ := double_not_other h
    exact firstToken_double hb hw hd hq h []
  | single hb hw hd hq =>
    obtain ⟨rfl, rfl⟩ := List.cons.inj hs
    exact firstToken_single hb hw hd hq (by rintro _ ⟨⟩)

theorem tokens_of_lexeme {kind : TokenKind} {s : List Char} (h : Lexeme kind s) :
    tokens s = [⟨kind, s⟩] := by
  cases s with
  | nil => cases h
  | cons c cs => rw [tokens_cons, firstToken_of_lexeme h, tokens]

theorem lexeme_of_number {c : Char} (hc : c.isDigit = true) (rest : List Char) :
    Lexeme .number
      (c :: rest.takeWhile Char.isDigit ++ (fraction (rest.dropWhile Char.isDigit)).1) := by
  have hdigits : ∀ d ∈ c :: rest.takeWhile Char.isDigit, d.isDigit = true :=
    List.forall_mem_cons.2 ⟨hc, List.all_eq_true.1 List.all_takeWhile⟩
  cases hf : (fraction (rest.dropWhile Char.isDigit)).1 with
  | nil =>
    rw [List.append_nil]
    exact .whole hdigits
  | cons x xs =>
    obtain ⟨d, ds, hs, hd⟩ := point_of_fraction hf
    rw [hs, fraction, if_pos hd] at hf
    rw [← hf]
    exact .decimal hdigits (List.forall_mem_cons.2 ⟨hd, List.all_eq_true.1 List.all_takeWhile⟩)

/-- Every token is a lexeme of its kind. -/
theorem lexeme_firstToken (c : Char) (rest : List Char) :
    Lexeme (firstToken c rest).1.kind (firstToken c rest).1.chars := by
  by_cases hb : isBlank c = true
  · rw [firstToken_of_blank hb]
    exact .blank (List.forall_mem_cons.2 ⟨hb, List.all_eq_true.1 List.all_takeWhile⟩)
  rw [Bool.not_eq_true] at hb
  by_cases hw : isWordStart c = true
  · rw [firstToken_of_word hb hw]
    exact .ident hw (List.all_eq_true.1 List.all_takeWhile)
  rw [Bool.not_eq_true] at hw
  by_cases hd : c.isDigit = true
  · rw [firstToken_of_digit hb hw hd]
    exact lexeme_of_number hd rest
  rw [Bool.not_eq_true] at hd
  by_cases hq : c = '"' ∨ c = '\''
  · rw [firstToken_of_quote hb hw hd hq]
    exact .string hq (literalBody_literalTail c rest)
  by_cases hdouble : ∃ d ∈ rest.head?, doubleMarks.contains (c, d) = true
  · obtain ⟨d, hmem, hdouble⟩ := hdouble
    obtain ⟨rest, rfl⟩ := List.head?_eq_some_iff.1 hmem
    rw [firstToken_double hb hw hd hq hdouble]
    exact .double hdouble
  · rw [firstToken_single hb hw hd hq
      fun d hmem => Bool.eq_false_iff.2 fun h => hdouble ⟨d, hmem, h⟩]
    exact .single hb hw hd hq

theorem lexeme_of_mem_tokens {s : List Char} {t : Token} (h : t ∈ tokens s) :
    Lexeme t.kind t.chars := by
  fun_induction tokens s with
  | case1 => cases h
  | case2 c rest ih =>
    rcases List.mem_cons.1 h with rfl | h
    · exact lexeme_firstToken c rest
    · exact ih h

theorem forall_mem_concat {α : Type} {P : α → Prop} {l : List α} {x : α} (hl : ∀ y ∈ l, P y)
    (hx : P x) : ∀ y ∈ l ++ [x], P y :=
  List.forall_mem_append.2 ⟨hl, List.forall_mem_singleton.2 hx⟩

theorem Lexeme.ne_nil {kind : TokenKind} {cs : List Char} (h : Lexeme kind cs) : cs ≠ [] := by
  cases h <;> exact List.cons_ne_nil _ _

theorem Lexeme.digit_of_number {d : Char} {ds : List Char} (h : Lexeme .number (d :: ds)) :
    d.isDigit = true := by
  cases h with
  | whole h => exact h d List.mem_cons_self
  | decimal h _ => exact h d List.mem_cons_self

/-- A run of blanks, a word or a number takes along what may begin another one. -/
theorem Lexeme.extend {kind : TokenKind} {cs ds : List Char} {d : Char}
    (hk : kind ≠ .string ∧ kind ≠ .punct) (h : Lexeme kind cs) (hd : Lexeme kind (d :: ds)) :
    Lexeme kind (cs ++ [d]) := by
  cases h with
  | blank h =>
    cases hd with
    | blank hd => exact .blank (forall_mem_concat h (hd d List.mem_cons_self))
  | ident hc hcs =>
    cases hd with
    | ident hd _ => exact .ident hc (forall_mem_concat hcs (isWordChar_of_isWordStart hd))
  | whole h => exact .whole (forall_mem_concat h hd.digit_of_number)
  | decimal hc hds =>
    rw [List.append_assoc]
    exact .decimal hc (forall_mem_concat hds hd.digit_of_number)
  | string => exact absurd rfl hk.1
  | double => exact absurd rfl hk.2
  | single => exact absurd rfl hk.2

theorem LiteralBody.extend {quote : Char} (hq : quote ≠ '\\') {body : List Char}
    (h : LiteralBody quote body) (hopen : literalCloses quote body = false) (x : Char) :
    LiteralBody quote (body ++ [x]) := by
  induction h with
  | closed =>
    rw [literalCloses_cons hq, decide_eq_true rfl] at hopen
    cases hopen
  | cutOff =>
    by_cases hx : x = quote
    · subst hx
      exact .closed
    · by_cases hbackslash : x = '\\'
      · subst hbackslash
        exact .backslash
      · exact .plain hbackslash hx .cutOff
  | backslash => exact .escaped x .cutOff
  | escaped c h ih =>
    rw [literalCloses] at hopen
    exact .escaped c (ih hopen)
  | plain hc hne h ih =>
    rw [literalCloses_cons hc, decide_eq_false hne, Bool.false_or] at hopen
    exact .plain hc hne (ih hopen)

section Places

variable {s : List Char} {before after : List Token} {t u : Token}

/-- No longer part of the rest of the line is a lexeme, of whatever kind. -/
theorem not_lexeme_of_longer (h : tokens s = before ++ t :: after) {longer : List Char}
    (hp : longer <+: t.chars ++ spell after) (hl : t.chars.length < longer.length)
    (kind : TokenKind) : ¬Lexeme kind longer := by
  intro hlexeme
  obtain ⟨a, rfl⟩ := List.prefix_of_prefix_length_le (List.prefix_append t.chars (spell after)) hp
    (Nat.le_of_lt hl)
  obtain ⟨b, hb⟩ := hp
  rw [List.append_assoc] at hb
  have hcut := tokens_cut (tokens_spell_suffix h) (List.append_cancel_left hb).symm
  rw [tokens_of_lexeme hlexeme] at hcut
  have hnone : spell (tokens a) = [] := by rw [← (List.cons.inj hcut).2]; rfl
  rw [spell_tokens] at hnone
  subst hnone
  simp at hl

theorem not_lexeme_of_next (h : tokens s = before ++ t :: u :: after) {d : Char} {ds : List Char}
    (hd : u.chars = d :: ds) (kind : TokenKind) : ¬Lexeme kind (t.chars ++ [d]) := by
  refine not_lexeme_of_longer h ?_ (by simp) kind
  rw [spell, List.flatMap_cons, hd, List.prefix_append_right_inj]
  exact List.prefix_append [d] _

theorem kind_of_neighbours (h : tokens s = before ++ t :: u :: after) (hk : t.kind = u.kind) :
    t.kind = .string ∨ t.kind = .punct := by
  have ht : Lexeme t.kind t.chars := lexeme_of_mem_tokens (s := s) (by simp [h])
  have hu : Lexeme u.kind u.chars := lexeme_of_mem_tokens (s := s) (by simp [h])
  obtain ⟨d, ds, hd⟩ := List.exists_cons_of_ne_nil hu.ne_nil
  rw [← hk, hd] at hu
  by_cases hs : t.kind = .string
  · exact .inl hs
  by_cases hp : t.kind = .punct
  · exact .inr hp
  exact absurd (ht.extend ⟨hs, hp⟩ hu) (not_lexeme_of_next h hd t.kind)

/-- A literal without an end would have taken the next character along. -/
theorem closed_of_neighbour (h : tokens s = before ++ t :: u :: after) : t.isClosed = true := by
  have ht : Lexeme t.kind t.chars := lexeme_of_mem_tokens (s := s) (by simp [h])
  have hu : Lexeme u.kind u.chars := lexeme_of_mem_tokens (s := s) (by simp [h])
  obtain ⟨d, ds, hd⟩ := List.exists_cons_of_ne_nil hu.ne_nil
  have hnext := not_lexeme_of_next h hd .string
  obtain ⟨kind, chars⟩ := t
  cases ht with
  | string hq hbody =>
    rw [← Bool.not_eq_false]
    intro hopen
    refine hnext (.string hq (hbody.extend ?_ hopen d))
    rcases hq with rfl | rfl <;> decide
  | _ => rfl

end Places

section Located

variable {n : Nat} {ts : List Token}

theorem map_fst_located (n : Nat) (ts : List Token) : (located n ts).map Prod.fst = ts := by
  induction ts generalizing n with
  | nil => rfl
  | cons t ts ih => rw [located, List.map_cons, ih]

/-- The ranges of a later part start behind the text of the earlier one. -/
theorem located_append (n : Nat) (ts us : List Token) :
    located n (ts ++ us) = located n ts ++ located (n + byteLength (spell ts)) us := by
  induction ts generalizing n with
  | nil => rfl
  | cons t ts ih =>
    rw [List.cons_append, located, ih, located, List.cons_append, Nat.add_assoc,
      ← byteLength_append]
    rfl

theorem located_split {before after : List (Token × Span)} (h : located n ts = before ++ after) :
    before = located n (before.map Prod.fst) ∧
      after = located (n + byteLength (spell (before.map Prod.fst))) (after.map Prod.fst) := by
  have hts : ts = before.map Prod.fst ++ after.map Prod.fst := by
    rw [← List.map_append, ← h, map_fst_located]
  rw [hts, located_append] at h
  have hlen : (located n (before.map Prod.fst)).length = before.length := by
    rw [← List.length_map Prod.fst, map_fst_located, List.length_map]
  obtain ⟨hb, ha⟩ := List.append_inj h hlen
  exact ⟨hb.symm, ha.symm⟩

/-- Where a token stands among the tokens of a line, and its range. -/
theorem located_place {s : List Char} {before after : List (Token × Span)} {p : Token × Span}
    (h : located 0 (tokens s) = before ++ p :: after) :
    tokens s = before.map Prod.fst ++ p.1 :: after.map Prod.fst ∧
      p.2 = ⟨byteLength (spell (before.map Prod.fst)),
        byteLength (spell (before.map Prod.fst)) + byteLength p.1.chars⟩ := by
  constructor
  · rw [← map_fst_located 0 (tokens s), h, List.map_append, List.map_cons]
  · have hafter := (located_split h).2
    rw [Nat.zero_add, List.map_cons, located] at hafter
    exact congrArg Prod.snd (List.cons.inj hafter).1

theorem located_place_of_mem {s : List Char} {p : Token × Span} (h : p ∈ located 0 (tokens s)) :
    ∃ a b, s = a ++ (p.1.chars ++ b) ∧ p.1 ∈ tokens s ∧
      p.2 = ⟨byteLength a, byteLength a + byteLength p.1.chars⟩ := by
  obtain ⟨before, after, hsplit⟩ := List.append_of_mem h
  obtain ⟨hs, hspan⟩ := located_place hsplit
  refine ⟨spell (before.map Prod.fst), spell (after.map Prod.fst), ?_, ?_, hspan⟩
  · rw [← spell_tokens s, hs, spell_append]
    rfl
  · rw [hs]
    exact List.mem_append_right _ List.mem_cons_self

end Located

/-- The ranges lie end to end from `lo` to `hi`, and none of them is empty. -/
def Tiles : Nat → List Span → Nat → Prop
  | lo, [], hi => lo = hi
  | lo, s :: rest, hi => s.start = lo ∧ lo < s.stop ∧ Tiles s.stop rest hi

theorem tiles_located (n : Nat) (ts : List Token) (h : ∀ t ∈ ts, t.chars ≠ []) :
    Tiles n ((located n ts).map Prod.snd) (n + byteLength (spell ts)) := by
  induction ts generalizing n with
  | nil => rfl
  | cons t ts ih =>
    obtain ⟨ht, hts⟩ := List.forall_mem_cons.1 h
    have hpos := byteLength_pos ht
    have hrest := ih (n + byteLength t.chars) hts
    rw [Nat.add_assoc, ← byteLength_append] at hrest
    exact ⟨rfl, Nat.lt_add_of_pos_right hpos, hrest⟩

/-- The tokens of the line with their byte ranges: a partition of the line by longest match. -/
structure IsPartition (line : String) (ts : List (Token × Span)) : Prop where
  nonempty : ∀ p ∈ ts, p.1.chars ≠ []
  tiles : Tiles 0 (ts.map Prod.snd) line.utf8ByteSize
  slices : ∀ p ∈ ts, p.2.slice line.toList = p.1.chars
  boundaries : ∀ p ∈ ts,
    String.Pos.Raw.IsValid line ⟨p.2.start⟩ ∧ String.Pos.Raw.IsValid line ⟨p.2.stop⟩
  joined : String.join (ts.map fun p => p.1.text) = line
  lexemes : ∀ p ∈ ts, Lexeme p.1.kind p.1.chars
  maximal : ∀ before p after, ts = before ++ p :: after →
    ∀ longer, longer <+: p.1.chars ++ spell (after.map Prod.fst) →
      p.1.chars.length < longer.length → ∀ kind, ¬Lexeme kind longer
  neighbours : ∀ before p q after, ts = before ++ p :: q :: after → p.1.kind = q.1.kind →
    p.1.kind = .string ∨ p.1.kind = .punct
  closed : ∀ before p q after, ts = before ++ p :: q :: after → p.1.isClosed = true

/-- Reading a line drops nothing, splits no character and takes the longest token everywhere. -/
theorem tokens_partition (line : String) : IsPartition line (located 0 (tokens line.toList)) := by
  constructor
  case nonempty =>
    intro p hp
    obtain ⟨a, b, -, hmem, -⟩ := located_place_of_mem hp
    exact (lexeme_of_mem_tokens hmem).ne_nil
  case tiles =>
    have htiles := tiles_located 0 (tokens line.toList) fun t ht =>
      (lexeme_of_mem_tokens ht).ne_nil
    rwa [spell_tokens, Nat.zero_add, byteLength_toList] at htiles
  case slices =>
    intro p hp
    obtain ⟨a, b, hline, -, hspan⟩ := located_place_of_mem hp
    rw [hspan, hline]
    exact slice_between a p.1.chars b
  case boundaries =>
    intro p hp
    obtain ⟨a, b, hline, -, hspan⟩ := located_place_of_mem hp
    rw [hspan]
    refine ⟨isValid_byteLength hline, ?_⟩
    rw [← byteLength_append]
    rw [← List.append_assoc] at hline
    exact isValid_byteLength hline
  case joined =>
    have hchars : ∀ p : Token × Span, p.1.text.toList = p.1.chars := fun p => String.toList_ofList
    rw [← String.toList_inj, String.toList_join, List.flatMap_map]
    simp only [hchars]
    rw [← List.flatMap_map, map_fst_located, ← spell, spell_tokens]
  case lexemes =>
    intro p hp
    obtain ⟨a, b, -, hmem, -⟩ := located_place_of_mem hp
    exact lexeme_of_mem_tokens hmem
  case maximal =>
    intro before p after h longer hp hl kind
    exact not_lexeme_of_longer (located_place h).1 hp hl kind
  case neighbours =>
    intro before p q after h
    exact kind_of_neighbours (located_place h).1
  case closed =>
    intro before p q after h
    exact closed_of_neighbour (located_place h).1

example :
    (tokens "1.5>=3.x 'a".toList).map Token.text = ["1.5", ">=", "3", ".", "x", " ", "'a"] := by
  decide +kernel

end ExecutableUml.Action
