import ExecutableUml.Proofs.Action.Places.Reader
import ExecutableUml.Proofs.Action.Relexing
import ExecutableUml.Proofs.Action.Words

/-! The tokens of a line by their places are its words in their order, and the byte ranges of the
tokens fall on the ends of the words. So every text that is cut out between two tokens is there, and
it is the text of the words between them. -/

namespace ExecutableUml.Action

open Text

def spread (ws : List Word) : List Char := ws.flatMap fun w => w.gap ++ w.token.chars

theorem spread_cons (w : Word) (ws : List Word) :
    spread (w :: ws) = w.gap ++ (w.token.chars ++ spread ws) := by
  simp [spread]

theorem spread_append (a b : List Word) : spread (a ++ b) = spread a ++ spread b :=
  List.flatMap_append

theorem spread_concat (ws : List Word) (w : Word) :
    spread (ws ++ [w]) = spread ws ++ w.gap ++ w.token.chars := by
  simp [spread]

theorem toList_join (w : Word) (ws : List Word) :
    (Word.join (w :: ws)).toList = w.token.chars ++ spread ws :=
  String.toList_ofList

/-- Only the blanks behind the last word are missing. -/
theorem spread_wordsAfter (gap : List Char) (ts : List Token) :
    ∃ blanks, gap ++ spell ts = spread (wordsAfter gap ts) ++ blanks := by
  induction ts generalizing gap with
  | nil => exact ⟨gap, by simp [wordsAfter, spread, spell]⟩
  | cons t ts ih =>
    rw [wordsAfter]
    split
    · obtain ⟨blanks, h⟩ := ih (gap ++ t.chars)
      exact ⟨blanks, by rw [← h]; simp [spell]⟩
    · obtain ⟨blanks, h⟩ := ih []
      refine ⟨blanks, ?_⟩
      rw [spread_cons, List.append_assoc, List.append_assoc, ← h]
      simp [spell]

theorem token_of_mem_words {s : List Char} {w : Word} (h : w ∈ words (tokens s)) :
    w.token ∈ tokens s ∧ w.token.isBlank = false := by
  have hmem := List.mem_map_of_mem (f := Word.token) h
  rw [words, map_token_wordsAfter] at hmem
  simpa [significant] using hmem

/-- The text stands in the line and has no blanks at its ends. -/
structure StandsIn (line : List Char) (text : String) : Prop where
  part : text.toList <:+: line
  ne_nil : text.toList ≠ []
  head : ∀ c ∈ text.toList.head?, isBlank c = false
  last : ∀ c ∈ text.toList.getLast?, isBlank c = false

theorem standsIn_of_cutFrom {s : List Char} (hs : trim s = s) {text : String}
    (h : CutFrom (words (tokens s)) text) : StandsIn s text := by
  obtain ⟨v, hne, ⟨a, c, hws⟩, rfl⟩ := h
  obtain ⟨w, m, rfl⟩ := List.exists_cons_of_ne_nil hne
  have hmem : ∀ u ∈ w :: m, u ∈ words (tokens s) := fun u hu =>
    hws ▸ List.mem_append_left c (List.mem_append_right a hu)
  have htoken := token_of_mem_words (hmem w List.mem_cons_self)
  have hlexeme := lexeme_of_mem_tokens htoken.1
  obtain ⟨blanks, hspread⟩ := spread_wordsAfter [] (tokens s)
  rw [List.nil_append, spell_tokens, ← words, ← hws, spread_append, spread_append,
    spread_cons] at hspread
  have hjoin : w.token.chars ++ spread m ≠ [] := by simp [hlexeme.ne_nil]
  refine ⟨?_, ?_, ?_, ?_⟩
  all_goals rw [toList_join]
  · exact ⟨spread a ++ w.gap, spread c ++ blanks, by rw [hspread]; simp⟩
  · exact hjoin
  · rw [List.head?_append, Option.or_of_isSome (List.isSome_head?.2 hlexeme.ne_nil)]
    exact hlexeme.head_not_blank (Token.isBlank_eq_false_iff.1 htoken.2)
  · -- the last character is that of the last word
    obtain ⟨front, l, hl⟩ := List.eq_nil_or_concat (w :: m) |>.resolve_left hne
    have hend := token_of_mem_words (hmem l (by rw [hl]; simp))
    have hends := (lexeme_of_mem_tokens hend.1).ne_nil
    have hlast : (w.token.chars ++ spread m).getLast? = l.token.chars.getLast? := by
      rw [← List.getLast?_append_of_ne_nil w.gap hjoin, ← spread_cons, hl, List.concat_eq_append,
        spread_concat, List.getLast?_append_of_ne_nil _ hends]
    rw [hlast]
    exact last_of_mem_tokens hs hend.1 hend.2

namespace Places

/-- Words with the byte ranges of their tokens; the blanks in front of the first one start at
`n`. -/
def placed (n : Nat) : List Word → List (Token × Span)
  | [] => []
  | w :: ws =>
    let start := n + byteLength w.gap
    (w.token, ⟨start, start + byteLength w.token.chars⟩) ::
      placed (start + byteLength w.token.chars) ws

theorem filter_located (n : Nat) (gap : List Char) (ts : List Token) :
    (located (n + byteLength gap) ts).filter (fun t => !t.1.isBlank) =
      placed n (wordsAfter gap ts) := by
  induction ts generalizing n gap with
  | nil => rfl
  | cons t ts ih =>
    rw [located, wordsAfter]
    cases hb : t.isBlank with
    | true =>
      have hrest := ih n (gap ++ t.chars)
      rw [byteLength_append, ← Nat.add_assoc] at hrest
      rw [List.filter_cons_of_neg (by simp [hb]), hrest]
      rfl
    | false =>
      have hrest := ih (n + byteLength gap + byteLength t.chars) []
      rw [List.filter_cons_of_pos (by simp [hb])]
      exact congrArg _ hrest

theorem map_fst_placed (n : Nat) (ws : List Word) :
    (placed n ws).map Prod.fst = ws.map Word.token := by
  induction ws generalizing n with
  | nil => rfl
  | cons w ws ih => rw [placed, List.map_cons, List.map_cons, ih]

theorem placed_append (n : Nat) (a b : List Word) :
    placed n (a ++ b) = placed n a ++ placed (n + byteLength (spread a)) b := by
  induction a generalizing n with
  | nil => rfl
  | cons w a ih =>
    rw [List.cons_append, placed, ih, placed, List.cons_append, spread_cons, byteLength_append,
      byteLength_append]
    simp only [Nat.add_assoc]

theorem length_placed (n : Nat) (ws : List Word) : (placed n ws).length = ws.length := by
  rw [← List.length_map Prod.fst, map_fst_placed, List.length_map]

theorem cut_between (a b c : List Char) :
    cut (a ++ (b ++ c)) ⟨byteLength a, byteLength a + byteLength b⟩ = .ok b := by
  rw [cut, if_pos (Nat.le_add_right _ _), dropBytes_append, Option.bind_some,
    Nat.add_sub_cancel_left, takeBytes_append]

def lineOf (s : List Char) : Line := ⟨s, placed 0 (words (tokens s))⟩

theorem mapM_ok {α : Type} {f : α → Except Fault α} {l : List α} (h : ∀ a ∈ l, f a = .ok a) :
    l.mapM f = .ok l := by
  induction l with
  | nil => rfl
  | cons a l ih =>
    obtain ⟨ha, hl⟩ := List.forall_mem_cons.1 h
    rw [List.mapM_cons, ha, ih hl]
    rfl

/-- Every token of the line gets its text from its range. -/
theorem ofChars_eq (s : List Char) : Line.ofChars s = .ok (lineOf s) := by
  have htexts : (located 0 (tokens s)).mapM (withText s) = .ok (located 0 (tokens s)) := by
    refine mapM_ok fun t ht => ?_
    obtain ⟨a, b, hsplit, -, hspan⟩ := located_place_of_mem ht
    have hcut : cut s t.2 = .ok t.1.chars := by
      rw [hspan, hsplit]
      exact cut_between a t.1.chars b
    rw [withText, hcut]
    rfl
  have hplaced := filter_located 0 [] (tokens s)
  rw [Line.ofChars, htexts]
  exact congrArg (fun toks => Except.ok (Line.mk s toks)) hplaced

theorem tokenAt_lineOf {s : List Char} {before after : List Word} {w : Word}
    (hws : words (tokens s) = before ++ w :: after) :
    (lineOf s).tokenAt before.length = .ok (w.token,
      ⟨byteLength (spread before ++ w.gap),
        byteLength (spread before ++ w.gap) + byteLength w.token.chars⟩) := by
  rw [Line.tokenAt, lineOf, hws, placed_append, placed, ← length_placed 0 before,
    List.getElem?_append_right (Nat.le_refl _), Nat.sub_self, byteLength_append, Nat.zero_add]
  rfl

theorem textBetween_lineOf {s : List Char} (hs : trim s = s) {a v c : List Word} (hne : v ≠ [])
    (hws : words (tokens s) = a ++ (v ++ c)) :
    (lineOf s).textBetween a.length (a.length + v.length) = .ok (Word.join v) := by
  have hstands : StandsIn s (Word.join v) :=
    standsIn_of_cutFrom hs ⟨v, hne, ⟨a, c, by rw [hws, List.append_assoc]⟩, rfl⟩
  have hsize : (lineOf s).size = a.length + (v.length + c.length) := by
    rw [Line.size, lineOf, length_placed, hws, List.length_append, List.length_append]
  obtain ⟨w, m, rfl⟩ := List.exists_cons_of_ne_nil hne
  obtain ⟨front, l, hl⟩ := (List.eq_nil_or_concat (w :: m)).resolve_left hne
  rw [List.concat_eq_append] at hl
  -- the range goes from the first word without its blanks to the end of the last one
  have hfirst := @tokenAt_lineOf s a (m ++ c) w hws
  have hlast : ∃ start, (lineOf s).tokenAt (a.length + (w :: m).length - 1) = .ok (l.token,
      ⟨start, byteLength (spread a ++ w.gap) + byteLength (w.token.chars ++ spread m)⟩) := by
    have hplace : a.length + (w :: m).length - 1 = (a ++ front).length := by
      rw [hl, List.length_append, List.length_append, List.length_singleton]
      omega
    have hstop : byteLength (spread (a ++ front) ++ l.gap) + byteLength l.token.chars =
        byteLength (spread a ++ w.gap) + byteLength (w.token.chars ++ spread m) := by
      rw [← byteLength_append, ← byteLength_append, List.append_assoc (spread a), ← spread_cons,
        hl, spread_append, spread_concat]
      simp only [List.append_assoc]
    rw [hplace, ← hstop]
    exact ⟨_, @tokenAt_lineOf s (a ++ front) c l (by rw [hws, hl]; simp)⟩
  obtain ⟨start, hlast⟩ := hlast
  obtain ⟨blanks, hspread⟩ := spread_wordsAfter [] (tokens s)
  have hcut : cut s ⟨byteLength (spread a ++ w.gap),
      byteLength (spread a ++ w.gap) + byteLength (w.token.chars ++ spread m)⟩ =
      .ok (w.token.chars ++ spread m) := by
    have hsplit : s = (spread a ++ w.gap) ++ ((w.token.chars ++ spread m) ++ (spread c ++ blanks)) := by
      rw [List.nil_append, spell_tokens, ← words, hws, spread_append, spread_append,
        spread_cons] at hspread
      simpa using hspread
    exact hsplit ▸ cut_between _ _ _
  have htrim : trim (w.token.chars ++ spread m) = w.token.chars ++ spread m := by
    rw [← toList_join]
    exact trim_eq_self hstands.head hstands.last
  rw [Line.textBetween, if_pos ⟨by simp, by rw [hsize]; omega⟩, hfirst, hlast]
  change (cut s _ >>= fun text => pure (String.ofList (trim text))) = _
  rw [hcut]
  exact congrArg (fun text => Except.ok (String.ofList text)) htrim

end Places

end ExecutableUml.Action
