import ExecutableUml.Proofs.Action.Places.Texts
import ExecutableUml.Proofs.Action.Terminators
import Mathlib.Data.List.Induction

/-! What the loops over places find, said of the words that remain at a place: the end of the
content, the parenthesis that closes a group, the arguments inside it and the first equals sign.
None of them leaves the tokens, and no group is closed that is not open. -/

namespace ExecutableUml.Action.Places

open Text Grammar

/-- The words `rest` are those from the place on. -/
def At (ws : List Word) (place : Nat) (rest : List Word) : Prop :=
  ∃ before, ws = before ++ rest ∧ before.length = place

namespace At

variable {ws v rest : List Word} {w : Word} {place : Nat}

theorem start (ws : List Word) : At ws 0 ws := ⟨[], rfl, rfl⟩

theorem behind (h : At ws place (v ++ rest)) : At ws (place + v.length) rest := by
  obtain ⟨before, rfl, rfl⟩ := h
  exact ⟨before ++ v, (List.append_assoc ..).symm, List.length_append⟩

theorem next (h : At ws place (w :: rest)) : At ws (place + 1) rest :=
  behind (v := [w]) h

theorem length (h : At ws place rest) : place + rest.length = ws.length := by
  obtain ⟨before, rfl, rfl⟩ := h
  exact List.length_append.symm

theorem isInfix (h : At ws place (v ++ rest)) : v <:+: ws := by
  obtain ⟨before, rfl, -⟩ := h
  exact ⟨before, rest, List.append_assoc ..⟩

theorem mem (h : At ws place (w :: rest)) : w ∈ ws := by
  obtain ⟨before, rfl, -⟩ := h
  exact List.mem_append_right before List.mem_cons_self

theorem cutFrom (h : At ws place (v ++ rest)) (hne : v ≠ []) : CutFrom ws (Word.join v) :=
  ⟨v, hne, h.isInfix, rfl⟩

end At

/-- The tokens and the texts of the line are those of the words. -/
structure Line.Spells (line : Line) (ws : List Word) : Prop where
  tokens : line.toks.map Prod.fst = ws.map Word.token
  text : ∀ {place v rest}, At ws place (v ++ rest) → v ≠ [] →
    line.textBetween place (place + v.length) = .ok (Word.join v)
  nonempty : ∀ {text}, CutFrom ws text → text.isEmpty = false

theorem spells_lineOf {s : List Char} (hs : trim s = s) : (lineOf s).Spells (words (tokens s)) where
  tokens := map_fst_placed 0 _
  text := by
    rintro _ v rest ⟨before, hws, rfl⟩ hne
    exact textBetween_lineOf hs hne hws
  nonempty h := by
    rw [Bool.eq_false_iff, Ne, String.isEmpty_iff, ← String.toList_eq_nil_iff]
    exact (standsIn_of_cutFrom hs h).ne_nil

theorem Word.isPunct_of_isPunct {w : Word} {mark other : String} (h : w.isPunct mark = true) :
    w.isPunct other = decide (mark = other) :=
  Token.isPunct_of_isPunct h

/-- Open groups are counted from one here. -/
theorem closingFrom_eq {ts : List (Token × Span)} {ws : List Word}
    (h : ts.map Prod.fst = ws.map Word.token) (place depth : Nat) :
    Line.closingFrom place (depth + 1) ts =
      .ok ((closeGroup depth ws).map fun g => place + g.1.length) := by
  induction ws generalizing ts place depth with
  | nil =>
    rw [List.map_nil, List.map_eq_nil_iff] at h
    rw [h]
    rfl
  | cons w ws ih =>
    obtain ⟨t, ts, rfl, ht, hts⟩ := List.map_eq_cons_iff.1 h
    have hlater : ∀ depth, Line.closingFrom (place + 1) (depth + 1) ts =
        .ok (((closeGroup depth ws).map fun g => (w :: g.1, g.2)).map fun g => place + g.1.length) := by
      intro depth
      rw [ih hts, Option.map_map]
      congr 2
      funext g
      simp only [Function.comp_apply, List.length_cons]
      omega
    have hmark : ∀ mark, t.1.isPunct mark = w.isPunct mark := fun mark => by rw [ht]; rfl
    rw [Line.closingFrom, closeGroup.eq_def]
    simp only [hmark]
    by_cases hopen : w.isPunct "(" = true
    · rw [if_pos hopen, if_neg (by simp [Word.isPunct_of_isPunct hopen]), hlater, if_pos hopen]
    · rw [if_neg hopen, if_neg hopen]
      by_cases hclose : w.isPunct ")" = true
      · rw [if_pos hclose, if_pos hclose, if_neg (Nat.succ_ne_zero depth), Nat.add_sub_cancel]
        cases depth with
        | zero => rfl
        | succ depth => rw [if_neg (Nat.succ_ne_zero depth), hlater]
      · rw [if_neg hclose, if_neg hclose, hlater]

theorem ok_bind {α β : Type} (a : α) (f : α → Except Fault β) :
    ((.ok a : Except Fault α) >>= f) = f a := rfl

section Steps

variable {line : Line} {ws v rest : List Word} {w : Word} {place : Nat} (h : line.Spells ws)
include h

theorem Line.Spells.size_eq : line.size = ws.length := by
  rw [Line.size, ← List.length_map Prod.fst, h.tokens, List.length_map]

theorem Line.Spells.drop (ha : At ws place rest) :
    (line.toks.drop place).map Prod.fst = rest.map Word.token := by
  obtain ⟨before, rfl, rfl⟩ := ha
  rw [List.map_drop, h.tokens, ← List.map_drop, List.drop_left]

theorem Line.Spells.token? (ha : At ws place rest) :
    line.toks[place]?.map Prod.fst = rest.head?.map Word.token := by
  rw [← List.head?_drop, ← List.head?_map, h.drop ha, List.head?_map]

/-- There are fewer words than rounds. -/
theorem Line.Spells.length_lt (ha : At ws place rest) : rest.length < line.size + 1 := by
  rw [h.size_eq, ← ha.length]
  omega

theorem Line.Spells.tokenAt (ha : At ws place (w :: rest)) :
    ∃ span, line.tokenAt place = .ok (w.token, span) := by
  have htoken := h.token? ha
  rw [List.head?_cons, Option.map_some, Option.map_eq_some_iff] at htoken
  obtain ⟨t, ht, hfst⟩ := htoken
  exact ⟨t.2, by rw [Line.tokenAt, ht, ← hfst]⟩

theorem contentEndBefore_eq (ha : At ws place (v ++ rest)) :
    line.contentEndBefore place (place + v.length) = .ok (place + (content v).length) := by
  induction v using List.reverseRecOn generalizing rest with
  | nil =>
    rw [List.length_nil, Nat.add_zero]
    cases place with
    | zero => rfl
    | succ place =>
      rw [Line.contentEndBefore, if_neg (Nat.lt_irrefl _)]
      rfl
  | append_singleton v w ih =>
    rw [List.append_assoc] at ha
    obtain ⟨span, htoken⟩ := h.tokenAt ha.behind
    rw [List.length_append, List.length_singleton, ← Nat.add_assoc, Line.contentEndBefore,
      if_pos (by omega), htoken, content, List.reverse_concat, List.dropWhile_cons]
    change (if w.isPunct ";" = true then _ else _) = _
    split
    · exact ih ha
    · rw [List.reverse_cons, List.reverse_reverse, List.length_append, List.length_singleton,
        ← Nat.add_assoc]
      rfl

theorem contentEnd_eq (ha : At ws place rest) :
    line.contentEnd place = .ok (place + (content rest).length) := by
  rw [Line.contentEnd, h.size_eq, ← ha.length]
  rw [← List.append_nil rest] at ha
  exact contentEndBefore_eq h ha

theorem closing_eq (ha : At ws place (w :: rest)) (hopen : w.isPunct "(" = true) :
    line.closing place = .ok ((closeGroup 0 rest).map fun g => place + 1 + g.1.length) := by
  obtain ⟨t, ts, hdrop, ht, hts⟩ := List.map_eq_cons_iff.1 (h.drop ha)
  have hopen' : t.1.isPunct "(" = true := by
    rw [ht]
    exact hopen
  rw [Line.closing, hdrop, Line.closingFrom, if_pos hopen']
  exact closingFrom_eq hts (place + 1) 0

theorem groupAt_eq (ha : At ws place (w :: rest)) :
    line.groupAt place = .ok ((if w.isPunct "(" then closeGroup 0 rest else none).map fun g =>
      place + 1 + g.1.length) := by
  obtain ⟨span, htoken⟩ := h.tokenAt ha
  rw [Line.groupAt, htoken]
  change (if w.isPunct "(" = true then _ else _) = _
  split
  · rename_i hopen
    exact closing_eq h ha hopen
  · rfl

theorem argument_of_unnamed (ha : At ws place (v ++ rest)) (hne : v ≠ [])
    (hnamed : line.isNamed place (place + v.length) = .ok false) :
    line.argument place (place + v.length) = .ok (some ⟨none, Word.join v⟩) := by
  have hlength := List.length_pos_iff.2 hne
  rw [Line.argument, if_neg (by omega), hnamed, ok_bind, if_neg Bool.false_ne_true, h.text ha hne]
  rfl

omit h in
theorem isNamed_short (hv : v.length ≤ 2) : line.isNamed place (place + v.length) = .ok false := by
  rw [Line.isNamed, if_neg (by omega)]
  rfl

theorem isNamed_eq {colon x : Word} (ha : At ws place (w :: colon :: x :: v ++ rest)) :
    line.isNamed place (place + (w :: colon :: x :: v).length) =
      .ok (w.isIdent && colon.isPunct ":") := by
  obtain ⟨span, htoken⟩ := h.tokenAt ha
  obtain ⟨span', htoken'⟩ := h.tokenAt ha.next
  rw [Line.isNamed, if_pos (by simp only [List.length_cons]; omega), htoken]
  change (if w.isIdent = true then _ else _) = _
  split
  · rename_i hident
    rw [htoken', hident]
    rfl
  · rename_i hident
    rw [Bool.eq_false_iff.2 hident]
    rfl

theorem argument_eq (ha : At ws place (v ++ rest)) :
    line.argument place (place + v.length) = .ok (Grammar.argument v) := by
  rcases v with _ | ⟨w, _ | ⟨colon, _ | ⟨x, v⟩⟩⟩
  · rw [Line.argument, List.length_nil, Nat.add_zero, if_pos (Nat.le_refl _)]
    rfl
  · exact argument_of_unnamed h ha (by simp) (isNamed_short (by simp))
  · exact argument_of_unnamed h ha (by simp) (isNamed_short (by simp))
  · have hnamed := isNamed_eq h ha
    rw [Grammar.argument]
    split
    · rename_i hn
      obtain ⟨span, htoken⟩ := h.tokenAt ha
      have htext := h.text (v := x :: v) ha.next.next (List.cons_ne_nil _ _)
      have hstop : place + 1 + 1 + (x :: v).length = place + (w :: colon :: x :: v).length := by
        simp only [List.length_cons]
        omega
      rw [hstop] at htext
      rw [hn] at hnamed
      rw [Line.argument, if_neg (by simp), hnamed, ok_bind, if_pos rfl, htoken, ok_bind, htext]
      rfl
    · rename_i hn
      rw [Bool.eq_false_iff.2 hn] at hnamed
      exact argument_of_unnamed h ha (by simp) hnamed

omit h in
theorem depthBehind_inside (t : Token) (depth : Nat) :
    Line.depthBehind t false depth = t.depthAfter depth := by
  rw [Line.depthBehind, Bool.not_false, Bool.and_true, Token.depthAfter_eq]

omit h in
/-- A comma opens and closes nothing. -/
theorem depthAfter_of_comma (hcomma : w.isPunct "," = true) (depth : Nat) :
    w.token.depthAfter depth = depth := by
  simp [← Token.depthAfter_eq, Token.isPunct_of_isPunct hcomma]

omit h in
theorem comma_depthAfter (w : Word) (depth : Nat) :
    (w.isPunct "," && w.token.depthAfter depth == 0) = (w.isPunct "," && depth == 0) := by
  cases hcomma : w.isPunct "," with
  | false => rfl
  | true => rw [depthAfter_of_comma hcomma]

omit h in
theorem modifyHead_nil_append (parts : List (List Word)) :
    parts.modifyHead (([] : List Word) ++ ·) = parts := by
  cases parts <;> rfl

/-- The loop splits what is inside of the parentheses at its commas; `part` is what was read of the
first argument. -/
theorem argumentsTo_eq {part inside : List Word} {close : Word} {start : Nat} (depth : Nat)
    (ha : At ws start (part ++ (inside ++ close :: rest))) :
    line.argumentsTo (start + part.length + inside.length) (inside.length + 1)
        (start + part.length) start depth =
      .ok (((splitCommas depth inside).modifyHead (part ++ ·)).filterMap Grammar.argument) := by
  induction inside generalizing part start depth with
  | nil =>
    obtain ⟨span, htoken⟩ := h.tokenAt ha.behind
    rw [Line.argumentsTo, htoken, ok_bind]
    simp only [List.length_nil, Nat.add_zero, beq_self_eq_true, Bool.or_true, if_true]
    rw [argument_eq h ha, ok_bind]
    rw [Line.argumentsTo, splitCommas, List.modifyHead_cons, List.append_nil,
      List.filterMap_cons, List.filterMap_nil]
    cases Grammar.argument part <;> rfl
  | cons w inside ih =>
    obtain ⟨span, htoken⟩ := h.tokenAt ha.behind
    have hclose : (start + part.length == start + part.length + (inside.length + 1)) = false := by
      simp
    have hplace : start + part.length + (inside.length + 1) =
        start + part.length + 1 + inside.length := by omega
    rw [List.length_cons, Line.argumentsTo, htoken, ok_bind, hclose, depthBehind_inside,
      Bool.or_false, hplace]
    change (if (w.isPunct "," && w.token.depthAfter depth == 0) = true then _ else _) = _
    rw [comma_depthAfter]
    split
    · rename_i hcomma
      have hlater := @ih [] _ depth ha.behind.next
      rw [modifyHead_nil_append, List.length_nil, Nat.add_zero] at hlater
      rw [argument_eq h ha, ok_bind, depthAfter_of_comma (Bool.and_eq_true_iff.1 hcomma).1, hlater,
        ok_bind, splitCommas, if_pos hcomma, List.modifyHead_cons, List.append_nil,
        List.filterMap_cons]
      cases Grammar.argument part <;> rfl
    · rename_i hcomma
      have hlater := @ih (part ++ [w]) start (w.token.depthAfter depth) (by simpa using ha)
      rw [List.length_append, List.length_singleton, ← Nat.add_assoc] at hlater
      rw [hlater, Grammar.splitCommas_cons (Bool.eq_false_iff.2 hcomma), List.modifyHead_modifyHead]
      simp only [Function.comp_def, List.append_assoc, List.singleton_append]

theorem argumentsTo_inside {inside : List Word} {close : Word}
    (ha : At ws place (inside ++ close :: rest)) :
    line.argumentsTo (place + inside.length) (inside.length + 1) place place 0 =
      .ok ((splitCommas 0 inside).filterMap Grammar.argument) := by
  have hloop := @argumentsTo_eq line ws rest h [] inside close place 0 ha
  rwa [modifyHead_nil_append] at hloop

/-- The first equals sign, and the words in front of it. -/
theorem equalsFrom_eq (ha : At ws place rest) :
    line.equalsFrom rest.length place =
      .ok (if (rest.dropWhile fun w => !w.isPunct "=").isEmpty then none
        else some (place + (rest.takeWhile fun w => !w.isPunct "=").length)) := by
  induction rest generalizing place with
  | nil => rfl
  | cons w rest ih =>
    obtain ⟨span, htoken⟩ := h.tokenAt ha
    rw [List.length_cons, Line.equalsFrom, htoken, ok_bind]
    change (if w.isPunct "=" = true then _ else _) = _
    cases hsign : w.isPunct "=" with
    | true => simp [hsign, pure, Except.pure]
    | false =>
      rw [if_neg Bool.false_ne_true, ih ha.next, List.dropWhile_cons_of_pos (by simp [hsign]),
        List.takeWhile_cons_of_pos (by simp [hsign]), List.length_cons, Nat.add_assoc, Nat.add_comm 1]

theorem tokensBetween_eq (ha : At ws place (v ++ rest)) :
    ∃ toks, line.tokensBetween place (place + v.length) = .ok toks ∧
      toks.map Prod.fst = v.map Word.token := by
  have hlength := ha.length
  rw [List.length_append] at hlength
  refine ⟨(line.toks.drop place).take (place + v.length - place), ?_, ?_⟩
  · rw [Line.tokensBetween, if_pos ⟨Nat.le_add_right _ _, by rw [h.size_eq]; omega⟩]
  · rw [List.map_take, h.drop ha, Nat.add_sub_cancel_left, ← List.map_take, List.take_left]

end Steps

end ExecutableUml.Action.Places
