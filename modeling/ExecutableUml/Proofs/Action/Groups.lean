import ExecutableUml.Proofs.Action.Words

/-! Conditions and arguments are read back from the words of their canonical text: a group ends at
its own parenthesis, and arguments part at the commas between them. -/

namespace ExecutableUml.Action

open Text

namespace Token

variable {t : Token}

theorem isPunct_of_isPunct {m m' : String} (h : t.isPunct m = true) :
    t.isPunct m' = decide (m = m') := by
  simp only [isPunct, Bool.and_eq_true, beq_iff_eq] at h
  rw [Bool.eq_iff_iff]
  simp [isPunct, h.1, h.2, String.toList_inj]

theorem isPunct_open : t.isPunct "(" = (t.opened == some .round) := by
  unfold opened
  repeat' split
  all_goals simp_all

theorem isPunct_close : t.isPunct ")" = (t.closed == some .round) := by
  unfold closed
  repeat' split
  all_goals simp_all

theorem isPunct_openSquare : t.isPunct "[" = (t.opened == some .square) := by
  unfold opened
  split
  · rename_i h
    rw [isPunct_of_isPunct h]
    rfl
  · split <;> simp_all

theorem isPunct_closeSquare : t.isPunct "]" = (t.closed == some .square) := by
  unfold closed
  split
  · rename_i h
    rw [isPunct_of_isPunct h]
    rfl
  · split <;> simp_all

theorem closed_of_opened {b : Bracket} (h : t.opened = some b) : t.closed = none := by
  have hmark : ∃ m, t.isPunct m = true ∧ (m = "(" ∨ m = "[") := by
    cases b with
    | round => exact ⟨"(", by rw [isPunct_open, h]; rfl, Or.inl rfl⟩
    | square => exact ⟨"[", by rw [isPunct_openSquare, h]; rfl, Or.inr rfl⟩
  obtain ⟨m, hm, rfl | rfl⟩ := hmark
  all_goals simp [closed, isPunct_of_isPunct hm]

/-- Groups are counted by the marks that open and close them. -/
theorem depthAfter_eq (depth : Nat) :
    (if t.isPunct "(" || t.isPunct "[" then depth + 1
      else if t.isPunct ")" || t.isPunct "]" then depth - 1 else depth) = t.depthAfter depth := by
  simp only [isPunct_open, isPunct_openSquare, isPunct_close, isPunct_closeSquare, depthAfter]
  rcases t.opened with _ | _ | _ <;> rcases t.closed with _ | _ | _ <;> rfl

end Token

/-- A token opens a group, leaves the groups as they are, or closes the innermost one. -/
theorem nested_cons {groups : List Bracket} {t : Token} {ts : List Token}
    (h : nested groups (t :: ts) = true) :
    (∃ b, t.opened = some b ∧ nested (b :: groups) ts = true) ∨
      (t.opened = none ∧ t.closed = none ∧ nested groups ts = true) ∨
      ∃ b outer, t.opened = none ∧ t.closed = some b ∧ groups = b :: outer ∧
        nested outer ts = true := by
  rw [nested] at h
  cases ho : t.opened with
  | some b =>
    simp only [ho] at h
    exact Or.inl ⟨b, rfl, h⟩
  | none =>
    simp only [ho] at h
    cases hc : t.closed with
    | none =>
      simp only [hc] at h
      exact Or.inr (Or.inl ⟨rfl, rfl, h⟩)
    | some b =>
      simp only [hc] at h
      cases groups with
      | nil => cases h
      | cons group outer =>
        simp only [Bool.and_eq_true, beq_iff_eq] at h
        obtain ⟨rfl, h⟩ := h
        exact Or.inr (Or.inr ⟨group, outer, rfl, rfl, rfl, h⟩)

theorem nested_append {groups : List Bracket} {ts : List Token} (h : nested groups ts = true)
    (us : List Token) : nested groups (ts ++ us) = nested [] us := by
  induction ts generalizing groups with
  | nil =>
    cases groups with
    | nil => rfl
    | cons b groups => cases h
  | cons t ts ih =>
    rw [List.cons_append, nested]
    rcases nested_cons h with ⟨b, ho, hn⟩ | ⟨ho, hc, hn⟩ | ⟨b, outer, ho, hc, rfl, hn⟩
    · simp only [ho]
      exact ih hn
    · simp only [ho, hc]
      exact ih hn
    · simp only [ho, hc, beq_self_eq_true, Bool.true_and]
      exact ih hn

namespace Grammar

section Words

variable {gap : List Char} {x m : String} {ws : List Word}

@[simp] theorem isIdent_nameWord : (nameWord gap x).isIdent = true := by
  simp [nameWord, Word.isIdent, Token.isIdent]

@[simp] theorem isIdent_markWord : (markWord gap m).isIdent = false := by
  simp [markWord, Word.isIdent, Token.isIdent]

@[simp] theorem text_nameWord : (nameWord gap x).text = x := by
  simp [nameWord, Word.text, Token.text]

@[simp] theorem ident_nameWord : ident (nameWord gap x :: ws) = some (x, ws) := by
  simp [ident]

@[simp] theorem punct_nameWord : punct m (nameWord gap x :: ws) = none := rfl

@[simp] theorem punct_markWord (m' : String) :
    punct m (markWord gap m' :: ws) = if m' = m then some ws else none := by
  simp [punct, markWord, Word.isPunct, Token.isPunct, String.toList_inj]

@[simp] theorem keyword_nameWord (w : String) :
    keyword w (nameWord gap x :: ws) = if sameUpToAsciiCase x w then some ws else none := by
  simp [keyword, nameWord, Word.isKeyword, Token.isKeyword, Token.isIdent, Token.text]

@[simp] theorem isPunct_nameWord : (nameWord gap x).isPunct m = false := by
  simp [nameWord, Word.isPunct, Token.isPunct]

@[simp] theorem isPunct_markWord (m' : String) :
    (markWord gap m').isPunct m = decide (m' = m) := by
  rw [Bool.eq_iff_iff]
  simp [markWord, Word.isPunct, Token.isPunct, String.toList_inj]

end Words

theorem content_eq_self {ws : List Word} (h : ∀ w ∈ ws.getLast?, w.isPunct ";" = false) :
    content ws = ws := by
  rw [← List.head?_reverse] at h
  rw [content]
  cases hr : ws.reverse with
  | nil => simpa using hr.symm
  | cons w r =>
    rw [hr] at h
    rw [List.dropWhile_cons_of_neg (by simp [h w rfl]), ← hr, List.reverse_reverse]

/-- A group is closed where its own parenthesis stands, whatever groups are inside. -/
theorem closeGroup_nested {groups : List Bracket} {ws : List Word}
    (h : nested groups (ws.map Word.token) = true) (gap : List Char) (after : List Word) :
    closeGroup (groups.count .round) (ws ++ markWord gap ")" :: after) = some (ws, after) := by
  induction ws generalizing groups with
  | nil =>
    cases groups with
    | nil => simp [closeGroup]
    | cons b groups => cases h
  | cons w ws ih =>
    rw [List.cons_append, closeGroup.eq_def]
    simp only [Word.isPunct, Token.isPunct_open, Token.isPunct_close]
    rcases nested_cons h with ⟨b, ho, hn⟩ | ⟨ho, hc, hn⟩ | ⟨b, outer, ho, hc, rfl, hn⟩
    · have hrest := ih hn
      rw [ho, Token.closed_of_opened ho]
      cases b <;> simpa using hrest
    · rw [ho, hc]
      simpa using ih hn
    · have hrest := ih hn
      rw [ho, hc]
      cases b <;> simpa using hrest

theorem splitCommas_ne_nil (depth : Nat) (ws : List Word) : splitCommas depth ws ≠ [] := by
  cases ws with
  | nil => exact List.cons_ne_nil _ _
  | cons w ws =>
    simp only [splitCommas]
    split
    · exact List.cons_ne_nil _ _
    · split <;> exact List.cons_ne_nil _ _

theorem splitCommas_cons {depth : Nat} {w : Word} (h : (w.isPunct "," && depth == 0) = false)
    (ws : List Word) :
    splitCommas depth (w :: ws) =
      (splitCommas (w.token.depthAfter depth) ws).modifyHead (w :: ·) := by
  have hdepth : (if w.isPunct "(" || w.isPunct "[" then depth + 1
      else if w.isPunct ")" || w.isPunct "]" then depth - 1 else depth) =
        w.token.depthAfter depth := Token.depthAfter_eq depth
  simp only [splitCommas, h, hdepth]
  cases hs : splitCommas (w.token.depthAfter depth) ws with
  | nil => exact absurd hs (splitCommas_ne_nil _ _)
  | cons part parts => rfl

theorem argument_unnamed {ws : List Word} (hne : ws ≠ [])
    (h : looksNamed (ws.map Word.token) = false) : argument ws = some ⟨none, Word.join ws⟩ := by
  rcases ws with _ | ⟨w, _ | ⟨colon, _ | ⟨v, vs⟩⟩⟩
  · exact absurd rfl hne
  · rfl
  · rfl
  · have hname : (w.isIdent && colon.isPunct ":") = false := h
    simp only [argument, hname]
    rfl

/-- Words whose commas are all inside of groups stay together. -/
theorem splitCommas_nested {groups : List Bracket} {ws : List Word}
    (h : nested groups (ws.map Word.token) = true)
    (hc : hasBareComma groups.length (ws.map Word.token) = false) (rest : List Word) :
    splitCommas groups.length (ws ++ rest) = (splitCommas 0 rest).modifyHead (ws ++ ·) := by
  induction ws generalizing groups with
  | nil =>
    cases groups with
    | nil => exact (congrFun List.modifyHead_id _).symm
    | cons b groups => cases h
  | cons w ws ih =>
    rw [List.map_cons, hasBareComma, Bool.or_eq_false_iff] at hc
    obtain ⟨hw, hc⟩ := hc
    have hrest : splitCommas (w.token.depthAfter groups.length) (ws ++ rest) =
        (splitCommas 0 rest).modifyHead (ws ++ ·) := by
      unfold Token.depthAfter at hc ⊢
      rcases nested_cons h with ⟨b, ho, hn⟩ | ⟨ho, hb, hn⟩ | ⟨b, outer, ho, hb, rfl, hn⟩
      · simp only [ho] at hc ⊢
        exact ih hn hc
      · simp only [ho, hb] at hc ⊢
        exact ih hn hc
      · simp only [ho, hb] at hc ⊢
        exact ih hn hc
    rw [List.cons_append, splitCommas_cons hw, hrest, List.modifyHead_modifyHead]
    rfl

end Grammar

section Text

variable {c : String} (h : IsText c)

theorem wordsFrom_group (h : IsText c) (gap rest : List Char) :
    wordsFrom gap ((groupText c).toList ++ rest) =
      markWord gap "(" :: (wordsFrom [] c.toList ++ markWord [] ")" :: wordsFrom [] rest) := by
  rw [groupText, String.toList_append, String.toList_append, List.append_assoc, List.append_assoc,
    wordsFrom_mark (by decide), wordsFrom_text h (by rintro _ ⟨⟩; decide),
    wordsFrom_mark (by decide)]

include h

theorem IsText.nested_words (gap : List Char) :
    nested [] ((wordsFrom gap c.toList).map Word.token) = true := by
  rw [map_token_wordsFrom]
  exact h.balanced

theorem IsText.words_ne_nil (gap : List Char) : wordsFrom gap c.toList ≠ [] := by
  obtain ⟨t, ts, -, hw⟩ := h.wordsFrom_eq gap
  rw [hw]
  exact List.cons_ne_nil _ _

namespace Grammar

theorem rest_text (gap : List Char) : rest (wordsFrom gap c.toList) = some c := by
  have hne := h.words_ne_nil gap
  rw [rest, atEnd, content_eq_self h.last_word, h.join_wordsFrom gap, if_neg (by simpa using hne)]

theorem condition_group (gap : List Char) :
    condition (wordsFrom gap (groupText c).toList) = some c := by
  have hw := wordsFrom_group h gap []
  rw [List.append_nil, wordsFrom_nil] at hw
  have hclose := closeGroup_nested (h.nested_words []) [] []
  rw [List.count_nil] at hclose
  have hlast : ∀ w ∈ (wordsFrom gap (groupText c).toList).getLast?, w.isPunct ";" = false := by
    rw [hw, ← List.cons_append, List.getLast?_concat]
    rintro _ ⟨⟩
    rfl
  rw [condition, content_eq_self hlast, hw]
  simp [hclose, h.words_ne_nil, h.join_wordsFrom]

end Grammar

end Text

def listWords (gap : List Char) : List Argument → List Word
  | [] => []
  | [a] => wordsFrom gap a.canonical.toList
  | a :: args => wordsFrom gap a.canonical.toList ++ markWord [] "," :: listWords [' '] args

namespace Argument.Printable

variable {a : Argument}

theorem head (h : a.Printable) (rest : List Char) :
    ∀ c ∈ (a.canonical.toList ++ rest).head?, isBlank c = false := by
  obtain ⟨_ | name, value⟩ := a
  · exact h.value.head rest
  · intro c hc
    rw [canonical, String.toList_append, String.toList_append, List.append_assoc,
      List.append_assoc] at hc
    exact ((h.name name rfl).head _ c hc).1

theorem wordsFrom_named {name value : String} (h : Printable ⟨some name, value⟩)
    (gap rest : List Char) :
    wordsFrom gap ((canonical ⟨some name, value⟩).toList ++ rest) =
      nameWord gap name :: markWord [] ":" :: wordsFrom [' '] (value.toList ++ rest) := by
  have htext : (canonical ⟨some name, value⟩).toList ++ rest =
      name.toList ++ (":".toList ++ ' ' :: (value.toList ++ rest)) := by
    simp [canonical, String.toList_append]
  rw [htext, wordsFrom_name (h.name name rfl) (by rintro _ ⟨⟩; decide),
    wordsFrom_mark_before (by decide) (by rintro _ ⟨⟩; exact Or.inl rfl),
    wordsFrom_space (h.value.head rest)]
  rfl

theorem wordsFrom_named_end {name value : String} (h : Printable ⟨some name, value⟩)
    (gap : List Char) :
    wordsFrom gap (canonical ⟨some name, value⟩).toList =
      nameWord gap name :: markWord [] ":" :: wordsFrom [' '] value.toList := by
  have hnamed := h.wordsFrom_named gap []
  rwa [List.append_nil, List.append_nil] at hnamed

/-- An argument keeps its words before a comma and before the end of the list. -/
theorem wordsFrom_append (h : a.Printable) (gap : List Char) {rest : List Char}
    (hr : ∀ x ∈ rest.head?, x = ' ' ∨ x = ')' ∨ x = ',') :
    wordsFrom gap (a.canonical.toList ++ rest) =
      wordsFrom gap a.canonical.toList ++ wordsFrom [] rest := by
  obtain ⟨_ | name, value⟩ := a
  · exact wordsFrom_text h.value hr
  · rw [h.wordsFrom_named, h.wordsFrom_named_end, wordsFrom_text h.value hr]
    rfl

theorem argument_wordsFrom (h : a.Printable) (gap : List Char) :
    Grammar.argument (wordsFrom gap a.canonical.toList) = some a := by
  obtain ⟨_ | name, value⟩ := a
  · have hunnamed := h.unnamed rfl
    rw [← map_token_wordsFrom gap] at hunnamed
    rw [canonical, Grammar.argument_unnamed (h.value.words_ne_nil gap) hunnamed,
      h.value.join_wordsFrom]
  · obtain ⟨t, ts, -, hw⟩ := h.value.wordsFrom_eq [' ']
    have hjoin := h.value.join_wordsFrom [' ']
    rw [hw] at hjoin
    rw [h.wordsFrom_named_end, hw]
    simp [Grammar.argument, hjoin]

theorem nested_wordsFrom (h : a.Printable) (gap : List Char) :
    nested [] ((wordsFrom gap a.canonical.toList).map Word.token) = true ∧
      hasBareComma 0 ((wordsFrom gap a.canonical.toList).map Word.token) = false := by
  obtain ⟨_ | name, value⟩ := a
  · rw [map_token_wordsFrom]
    exact ⟨h.value.balanced, h.comma⟩
  · rw [h.wordsFrom_named_end, List.map_cons, List.map_cons, map_token_wordsFrom]
    exact ⟨h.value.balanced, h.comma⟩

end Argument.Printable

theorem joined_cons_cons (a b : Argument) (args : List Argument) (rest : List Char) :
    (joinWith ", " ((a :: b :: args).map Argument.canonical)).toList ++ rest =
      a.canonical.toList ++ (",".toList ++
        ' ' :: ((joinWith ", " ((b :: args).map Argument.canonical)).toList ++ rest)) := by
  simp [joinWith, String.toList_append]

theorem joined_head {a : Argument} (h : a.Printable) (args : List Argument) (rest : List Char) :
    ∀ c ∈ ((joinWith ", " ((a :: args).map Argument.canonical)).toList ++ rest).head?,
      isBlank c = false := by
  cases args with
  | nil => exact h.head rest
  | cons b args =>
    rw [joined_cons_cons]
    exact h.head _

theorem wordsFrom_joined {a : Argument} {args : List Argument} (h : ∀ b ∈ a :: args, b.Printable)
    (gap rest : List Char) :
    wordsFrom gap ((joinWith ", " ((a :: args).map Argument.canonical)).toList ++ ')' :: rest) =
      listWords gap (a :: args) ++ wordsFrom [] (')' :: rest) := by
  have ha := h a List.mem_cons_self
  induction args generalizing a gap with
  | nil => exact ha.wordsFrom_append gap (by rintro _ ⟨⟩; decide)
  | cons b args ih =>
    have hargs : ∀ c ∈ b :: args, c.Printable := fun c hc => h c (List.mem_cons_of_mem a hc)
    have hb := hargs b List.mem_cons_self
    rw [joined_cons_cons, ha.wordsFrom_append gap (by rintro _ ⟨⟩; decide),
      wordsFrom_mark (by decide), wordsFrom_space (joined_head hb args _), ih hargs _ hb]
    simp [listWords]

section Arguments

variable {args : List Argument} (h : ∀ a ∈ args, a.Printable)

include h

theorem nested_listWords (gap : List Char) :
    nested [] ((listWords gap args).map Word.token) = true := by
  induction args generalizing gap with
  | nil => rfl
  | cons a args ih =>
    have ha := ((h a List.mem_cons_self).nested_wordsFrom gap).1
    cases args with
    | nil => exact ha
    | cons b args =>
      rw [listWords, List.map_append, nested_append ha]
      · exact ih (fun b hb => h b (List.mem_cons_of_mem a hb)) [' ']
      · exact List.cons_ne_nil _ _

theorem filterMap_argument (gap : List Char) :
    (Grammar.splitCommas 0 (listWords gap args)).filterMap Grammar.argument = args := by
  induction args generalizing gap with
  | nil => rfl
  | cons a args ih =>
    have ha := h a List.mem_cons_self
    obtain ⟨hnested, hcomma⟩ := ha.nested_wordsFrom gap
    have hsplit := Grammar.splitCommas_nested hnested hcomma
    rw [List.length_nil] at hsplit
    cases args with
    | nil =>
      rw [listWords, ← List.append_nil (wordsFrom gap _), hsplit]
      simp [Grammar.splitCommas, ha.argument_wordsFrom]
    | cons b args =>
      have hrest := ih (fun b hb => h b (List.mem_cons_of_mem a hb)) [' ']
      rw [listWords, hsplit]
      · simp [Grammar.splitCommas, ha.argument_wordsFrom, hrest]
      · exact List.cons_ne_nil _ _

theorem Grammar.arguments_canonical (gap rest : List Char) :
    arguments (wordsFrom gap ((argumentsText args).toList ++ rest)) =
      some (args, wordsFrom [] rest) := by
  have hwords : wordsFrom gap ((argumentsText args).toList ++ rest) =
      markWord gap "(" :: (listWords [] args ++ markWord [] ")" :: wordsFrom [] rest) := by
    rw [argumentsText, groupText, String.toList_append, String.toList_append, List.append_assoc,
      List.append_assoc, wordsFrom_mark (by decide)]
    have hclose : wordsFrom [] (')' :: rest) = markWord [] ")" :: wordsFrom [] rest :=
      wordsFrom_mark (m := ")") (by decide)
    rw [← hclose]
    cases args with
    | nil => rfl
    | cons a args => exact congrArg _ (wordsFrom_joined h [] rest)
  have hclose := closeGroup_nested (nested_listWords h []) [] (wordsFrom [] rest)
  rw [List.count_nil] at hclose
  rw [hwords, arguments]
  simp [hclose, filterMap_argument h]

end Arguments

end ExecutableUml.Action
