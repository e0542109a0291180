import ExecutableUml.Action.Body
import ExecutableUml.Proofs.Action.Clauses
import ExecutableUml.Proofs.Action.Relexing

/-! A call means the same as a statement of its own and inside an expression. Statements are read
over the words of a line and expressions over its tokens, with the blanks; the two readers find the
same groups, part them at the same commas and cut the same values. -/

namespace ExecutableUml.Action

open Text

section Readers

variable {gap : List Char} {t : Token} {ts : List Token}

theorem wordsAfter_of_blank (h : t.isBlank = true) :
    wordsAfter gap (t :: ts) = wordsAfter (gap ++ t.chars) ts := by
  rw [wordsAfter, if_pos h]

theorem wordsAfter_of_not_blank (h : t.isBlank = false) :
    wordsAfter gap (t :: ts) = ⟨gap, t⟩ :: wordsAfter [] ts :=
  wordsAfter_of_ne_blank (Token.isBlank_eq_false_iff.1 h)

/-- A group closes at the same parenthesis, whether or not blanks are skipped. -/
theorem closeGroup_wordsAfter (depth : Nat) (gap : List Char) (ts : List Token) :
    Grammar.closeGroup depth (wordsAfter gap ts) =
      (closeParen depth ts).map fun found => (wordsAfter gap found.1, wordsAfter [] found.2) := by
  induction ts generalizing depth gap with
  | nil => rfl
  | cons t ts ih =>
    cases hb : t.isBlank with
    | true =>
      rw [wordsAfter_of_blank hb, ih]
      simp only [closeParen, Token.isPunct_of_blank hb, Bool.false_and, Bool.false_eq_true,
        if_false, Option.map_map, Function.comp_def, wordsAfter_of_blank hb]
    | false =>
      rw [wordsAfter_of_not_blank hb]
      cases hclose : t.isPunct ")" with
      | true =>
        have hopen : t.isPunct "(" = false := Token.isPunct_of_isPunct hclose
        cases depth with
        | zero => simp [Grammar.closeGroup, closeParen, Word.isPunct, hclose, wordsAfter]
        | succ d =>
          simp [Grammar.closeGroup, closeParen, Word.isPunct, hclose, hopen, ih,
            Function.comp_def, wordsAfter_of_not_blank hb]
      | false =>
        cases hopen : t.isPunct "(" <;>
          simp [Grammar.closeGroup, closeParen, Word.isPunct, hclose, hopen, ih,
            Function.comp_def, wordsAfter_of_not_blank hb]

/-- The words of the parts of a list. The gap stands before the first one. -/
def partWords (gap : List Char) : List (List Token) → List (List Word)
  | [] => []
  | part :: parts => wordsAfter gap part :: parts.map words

theorem partWords_nil (parts : List (List Token)) : partWords [] parts = parts.map words := by
  cases parts <;> rfl

theorem splitArguments_ne_nil (depth : Nat) (ts : List Token) : splitArguments depth ts ≠ [] := by
  intro h
  have hparted := parted_splitArguments depth ts
  rw [h] at hparted
  cases hparted

theorem splitArguments_cons {depth : Nat} (h : (t.isPunct "," && depth == 0) = false)
    (ts : List Token) :
    splitArguments depth (t :: ts) =
      (splitArguments (t.depthAfter depth) ts).modifyHead (t :: ·) := by
  simp only [splitArguments, h, Token.depthAfter_eq]
  cases hs : splitArguments (t.depthAfter depth) ts with
  | nil => exact absurd hs (splitArguments_ne_nil _ _)
  | cons part parts => rfl

theorem depthAfter_of_blank (h : t.isBlank = true) (depth : Nat) : t.depthAfter depth = depth := by
  simp [Token.depthAfter, Token.opened, Token.closed, Token.isPunct_of_blank h]

/-- Lists are parted at the same commas, whether or not blanks are skipped. -/
theorem splitCommas_wordsAfter (depth : Nat) (gap : List Char) (ts : List Token) :
    Grammar.splitCommas depth (wordsAfter gap ts) = partWords gap (splitArguments depth ts) := by
  induction ts generalizing depth gap with
  | nil => rfl
  | cons t ts ih =>
    cases hb : t.isBlank with
    | true =>
      have hcomma : (t.isPunct "," && depth == 0) = false := by rw [Token.isPunct_of_blank hb]; rfl
      rw [wordsAfter_of_blank hb, ih, splitArguments_cons hcomma, depthAfter_of_blank hb]
      cases hs : splitArguments depth ts with
      | nil => rfl
      | cons part parts =>
        rw [List.modifyHead_cons, partWords, partWords, wordsAfter_of_blank hb]
    | false =>
      rw [wordsAfter_of_not_blank hb]
      cases hcomma : t.isPunct "," && depth == 0 with
      | true =>
        rw [Grammar.splitCommas, if_pos (by exact hcomma), splitArguments, if_pos hcomma, ih,
          partWords_nil]
        rfl
      | false =>
        rw [Grammar.splitCommas_cons (by exact hcomma), splitArguments_cons hcomma, ih]
        cases hs : splitArguments (t.depthAfter depth) ts with
        | nil => rfl
        | cons part parts =>
          rw [List.modifyHead_cons, partWords, partWords, List.modifyHead_cons,
            wordsAfter_of_not_blank hb]

theorem wordsAfter_blanks {blanks : List Token} (h : ∀ t ∈ blanks, t.isBlank = true)
    (gap : List Char) (ts : List Token) :
    wordsAfter gap (blanks ++ ts) = wordsAfter (gap ++ spell blanks) ts := by
  induction blanks generalizing gap with
  | nil => simp [spell]
  | cons b blanks ih =>
    obtain ⟨hb, hblanks⟩ := List.forall_mem_cons.1 h
    rw [List.cons_append, wordsAfter_of_blank hb, ih hblanks, List.append_assoc]
    rfl

/-- The text of the words is that of the tokens, without the blanks at its ends. -/
theorem join_wordsAfter (gap : List Char) (ts : List Token) :
    Word.join (wordsAfter gap ts) = String.ofList (spell (unpadded ts)) := by
  obtain ⟨before, after, hts, hbefore, hafter⟩ := unpadded_takes ts
  have hhead := List.head?_dropWhile_not Token.isBlank (unpadded ts)
  rw [dropWhile_unpadded] at hhead
  have hlast := last_dropTrailing Token.isBlank (ts.dropWhile Token.isBlank)
  rw [← unpadded] at hlast
  have hwords : wordsAfter gap ts = wordsAfter (gap ++ spell before) (unpadded ts ++ after) := by
    conv => lhs; rw [hts]
    exact wordsAfter_blanks hbefore gap _
  have hnone : ∀ g, wordsAfter g after = [] := by
    intro g
    rw [← List.append_nil after, wordsAfter_blanks hafter]
    rfl
  rw [hwords]
  cases hu : unpadded ts with
  | nil => rw [List.nil_append, hnone]; rfl
  | cons t us =>
    rw [hu] at hhead hlast
    have ht : t.isBlank = false := by simpa using hhead
    rw [List.cons_append, wordsAfter_of_not_blank ht, Word.join]
    cases hl : us.getLast? with
    | none =>
      rw [List.getLast?_eq_none_iff.1 hl, List.nil_append, hnone]
      rfl
    | some u =>
      have hk : u.kind ≠ .blank := by
        refine Token.isBlank_eq_false_iff.1 (hlast u ?_)
        exact getLast?_cons_of hl t
      rw [wordsAfter_append hl hk, hnone, List.append_nil, flatMap_wordsAfter hl hk]
      rfl

theorem words_of_significant {more : List Token} (h : significant ts = t :: more)
    (gap : List Char) :
    ∃ blanks rest, ts = blanks ++ t :: rest ∧ (∀ u ∈ blanks, u.isBlank = true) ∧
      significant rest = more ∧
      wordsAfter gap ts = ⟨gap ++ spell blanks, t⟩ :: wordsAfter [] rest := by
  obtain ⟨blanks, rest, rfl, hblanks, hrest⟩ := significant_takes h
  have ht : t.isBlank = false := by
    have hmem : t ∈ significant (blanks ++ t :: rest) := h ▸ List.mem_cons_self
    simpa using (List.mem_filter.1 hmem).2
  exact ⟨blanks, rest, rfl, hblanks, hrest, by
    rw [wordsAfter_blanks hblanks, wordsAfter_of_not_blank ht]⟩

/-- The values of the arguments are cut as they are read. -/
theorem argument_words (part : List Token) :
    Grammar.argument (words part) =
      (argumentSource part).map fun a => ⟨a.1, String.ofList (spell (unpadded a.2))⟩ := by
  have hjoin : Word.join (words part) = String.ofList (spell (unpadded part)) :=
    join_wordsAfter [] part
  unfold argumentSource
  cases hs : significant part with
  | nil =>
    have hnone : words part = [] := by
      rw [← List.map_eq_nil_iff (f := Word.token), words, map_token_wordsAfter, hs]
    rw [hnone]
    rfl
  | cons name more =>
    obtain ⟨gap, rest, hpart, hgap, hmore, hwords⟩ := words_of_significant hs []
    rw [← words] at hwords
    cases more with
    | nil =>
      have hnone : wordsAfter [] rest = [] := by
        rw [← List.map_eq_nil_iff (f := Word.token), map_token_wordsAfter, hmore]
      rw [hwords, hnone] at hjoin ⊢
      simp only [Grammar.argument, hjoin, Option.map_some]
    | cons colon more =>
      obtain ⟨gap', rest', hrest, hgap', hmore', hwords'⟩ := words_of_significant hmore []
      rw [hwords'] at hwords
      cases more with
      | nil =>
        have hnone : wordsAfter [] rest' = [] := by
          rw [← List.map_eq_nil_iff (f := Word.token), map_token_wordsAfter, hmore']
        rw [hwords, hnone] at hjoin ⊢
        simp only [Grammar.argument, hjoin, Option.map_some]
      | cons third more =>
        obtain ⟨gap'', rest'', -, -, -, hwords''⟩ := words_of_significant hmore' []
        have hvalue := join_wordsAfter [] rest'
        rw [hwords''] at hwords hvalue
        rw [hwords] at hjoin ⊢
        rw [Grammar.argument]
        dsimp only
        by_cases hnamed : (name.isIdent && colon.isPunct ":") = true
        · obtain ⟨hname, hcolon⟩ := Bool.and_eq_true_iff.1 hnamed
          rw [if_pos (by exact hnamed), if_pos hnamed, hpart, hrest,
            behind_colon hgap hname hgap' hcolon, Option.map_some, hvalue, unpadded_unpadded]
          rfl
        · rw [if_neg (by exact hnamed), if_neg hnamed, Option.map_some, hjoin]

theorem arguments_eq (inside : List Token) :
    (Grammar.splitCommas 0 (words inside)).filterMap Grammar.argument =
      (argumentSources inside).map fun a => ⟨a.1, String.ofList (spell (unpadded a.2))⟩ := by
  rw [words, splitCommas_wordsAfter, partWords_nil, List.filterMap_map, argumentSources,
    List.map_filterMap]
  congr 1
  funext part
  exact argument_words part

theorem atEnd_iff (ws : List Word) : Grammar.atEnd ws = true ↔ ∀ w ∈ ws, w.isPunct ";" = true := by
  rw [Grammar.atEnd, Grammar.content, List.isEmpty_iff, List.reverse_eq_nil_iff,
    List.dropWhile_eq_nil_iff]
  simp only [List.mem_reverse]

/-- Behind a call there are only terminators. -/
theorem terminators_of_atEnd (h : Grammar.atEnd (words ts) = true) :
    ∀ t ∈ ts, (t.isBlank || t.isPunct ";") = true := by
  intro t ht
  cases hb : t.isBlank with
  | true => rfl
  | false =>
    have hmem : t ∈ (words ts).map Word.token := by
      rw [words, map_token_wordsAfter]
      exact List.mem_filter.2 ⟨ht, by rw [hb]; rfl⟩
    obtain ⟨w, hw, rfl⟩ := List.mem_map.1 hmem
    exact (atEnd_iff _).1 h w hw

section Groups

variable {depth : Nat} {inside rest : List Token}

theorem closeParen_count (h : closeParen depth ts = some (inside, rest)) :
    depth + inside.countP (·.isPunct "(") = inside.countP (·.isPunct ")") := by
  induction ts generalizing depth inside with
  | nil => cases h
  | cons t ts ih =>
    rw [closeParen] at h
    split at h
    · rename_i hclose
      simp only [Bool.and_eq_true, beq_iff_eq] at hclose
      cases h
      rw [hclose.2]
      rfl
    · rename_i hstays
      obtain ⟨found, hfound, he⟩ := Option.map_eq_some_iff.1 h
      cases he
      have hcount := ih hfound
      rw [List.countP_cons, List.countP_cons]
      cases hopen : t.isPunct "(" with
      | true =>
        have hclose : t.isPunct ")" = false := Token.isPunct_of_isPunct hopen
        simp only [hopen, if_true] at hcount
        simp only [hclose, if_true, Bool.false_eq_true, if_false]
        omega
      | false =>
        cases hclose : t.isPunct ")" with
        | true =>
          simp only [hclose, Bool.true_and, beq_iff_eq] at hstays
          simp only [hopen, hclose, if_true, Bool.false_eq_true, if_false] at hcount ⊢
          omega
        | false =>
          simp only [hopen, hclose, Bool.false_eq_true, if_false] at hcount ⊢
          omega

/-- What stands behind the closing parenthesis does not matter. -/
theorem closeParen_replace {close : Token}
    (h : closeParen depth (inside ++ close :: rest) = some (inside, rest)) (behind : List Token) :
    closeParen depth (inside ++ close :: behind) = some (inside, behind) := by
  induction inside generalizing depth with
  | nil =>
    rw [List.nil_append, closeParen] at h ⊢
    split
    · rfl
    · rename_i hstays
      rw [if_neg hstays] at h
      obtain ⟨found, -, he⟩ := Option.map_eq_some_iff.1 h
      cases he
  | cons t inside ih =>
    rw [List.cons_append, closeParen] at h ⊢
    split
    · rename_i hclose
      rw [if_pos hclose] at h
      cases h
    · rename_i hstays
      rw [if_neg hstays] at h
      obtain ⟨⟨inner, after⟩, hfound, he⟩ := Option.map_eq_some_iff.1 h
      cases he
      simp only [ih hfound, Option.map_some]

end Groups

end Readers

/-- The callee and the arguments of a statement that calls an external entity or a function. -/
def Statement.call? : Statement → Option (Callee × List Argument)
  | .bridgeCall entity operation args => some (.bridge entity operation, args)
  | .functionCall name args => some (.function name, args)
  | _ => none

namespace Grammar

def NoCall (found : Option Statement) : Prop := ∀ s ∈ found, s.call? = none

namespace NoCall

theorem none : NoCall none := by rintro _ ⟨⟩

theorem some {s : Statement} (h : s.call? = Option.none) : NoCall (some s) := by
  rintro _ ⟨⟩
  exact h

theorem bind {α : Type} {found : Option α} {f : α → Option Statement} (h : ∀ a, NoCall (f a)) :
    NoCall (found >>= f) := by
  intro s hs
  obtain ⟨a, -, hf⟩ := Option.bind_eq_some_iff.1 hs
  exact h a s hf

theorem map {α : Type} {form : α → Statement} (h : ∀ a, (form a).call? = Option.none)
    (found : Option α) : NoCall (found.map form) := by
  intro s hs
  obtain ⟨a, -, rfl⟩ := Option.map_eq_some_iff.1 hs
  exact h a

theorem finish {s : Statement} (h : s.call? = Option.none) (ws : List Word) :
    NoCall (Grammar.finish s ws) := by
  unfold Grammar.finish
  split
  · exact .some h
  · exact .none

end NoCall

theorem selectFrom_noCall (ws : List Word) : NoCall (selectFrom ws) := by
  refine .bind fun _ => .bind fun _ => ?_
  simp only
  split
  · exact .bind fun _ => .bind fun _ => .bind fun _ => .bind fun _ => .some rfl
  · refine .bind fun _ => .bind fun _ => .bind fun _ => .bind fun _ => ?_
    split
    · exact .none
    · exact .bind fun _ => .some rfl

theorem create_noCall (ws : List Word) : NoCall (create ws) := by
  unfold create
  split
  · exact .bind fun _ => .bind fun _ => .bind fun _ => .bind fun _ => .finish rfl _
  · exact .bind fun _ => .bind fun _ => .bind fun _ => .bind fun _ => .bind fun _ => .bind fun _ =>
      .bind fun _ => .some rfl

theorem unrelate_noCall (ws : List Word) : NoCall (unrelate ws) := by
  refine .bind fun _ => .bind fun _ => .bind fun _ => ?_
  simp only
  split
  · exact .bind fun _ => .some rfl
  · refine .bind fun _ => ?_
    split
    · refine .bind fun _ => ?_
      split
      · exact .some rfl
      · exact .none
    · exact .none

theorem generate_noCall (ws : List Word) : NoCall (generate ws) := by
  unfold generate
  split
  · exact .bind fun _ => .bind fun _ => .bind fun _ => .some rfl
  · exact .bind fun _ => .finish rfl _

theorem assignment_noCall (ws : List Word) : NoCall (assignment ws) := by
  unfold assignment
  split
  · exact .none
  · exact .bind fun _ => .bind fun _ => .some rfl

/-- A word that announces a form announces no call. -/
theorem announced_noCall {word : String} {ws : List Word} {found : Option Statement}
    (h : announced word ws = some found) : NoCall found := by
  unfold announced at h
  split at h
  all_goals cases h
  · exact .map (fun _ => rfl) _
  · exact .map (fun _ => rfl) _
  · exact .map (fun _ => rfl) _
  · unfold elseBranch
    split
    · exact .map (fun _ => rfl) _
    · exact .finish rfl _
  · unfold endOfBlock
    split
    · exact .finish rfl _
    · exact .finish rfl _
    · exact .finish rfl _
    · exact .none
  · exact .bind fun _ => .bind fun _ => .bind fun _ => .bind fun _ => .some rfl
  · exact .finish rfl _
  · exact .finish rfl _
  · exact .some rfl
  · exact selectFrom_noCall ws
  · exact create_noCall ws
  · exact .bind fun _ => .bind fun _ => .bind fun _ => .finish rfl _
  · exact .bind fun _ => .bind fun _ => .bind fun _ => .bind fun _ => .some rfl
  · exact unrelate_noCall ws
  · exact .bind fun _ => .bind fun _ => .bind fun _ => .bind fun _ => .some rfl
  · exact generate_noCall ws
  · exact assignment_noCall ws

end Grammar

namespace Callee

def written : Callee → String
  | .bridge entity operation => entity ++ "::" ++ operation
  | .function name => "::" ++ name

/-- Made of names, and not taken for a reading of the clock. -/
def Callable : Callee → Prop
  | .bridge entity operation =>
    IsName entity ∧ IsName operation ∧
      asciiLower entity ∉ ["currenttimestamp", "currenttime", "currentdate"]
  | .function name => IsName name

def openingTokens : Callee → List Token
  | .bridge entity operation =>
    [⟨.ident, entity.toList⟩, ⟨.punct, "::".toList⟩, ⟨.ident, operation.toList⟩,
      ⟨.punct, "(".toList⟩]
  | .function name => [⟨.punct, "::".toList⟩, ⟨.ident, name.toList⟩, ⟨.punct, "(".toList⟩]

end Callee

section Openings

variable {rest : List Char}

theorem tokens_name {x : String} (h : IsName x) (hr : ∀ c ∈ rest.head?, isWordChar c = false) :
    tokens (x.toList ++ rest) = ⟨.ident, x.toList⟩ :: tokens rest := by
  have hstops : Stops (tokens x.toList) rest := by
    rw [h.tokens]
    rintro _ ⟨⟩ c hc
    rw [Token.stopsAt, hr c hc]
    rfl
  rw [tokens_append hstops, h.tokens]
  rfl

theorem tokens_plainMark {m : String} (h : m ∈ plainMarks) (rest : List Char) :
    tokens (m.toList ++ rest) = ⟨.punct, m.toList⟩ :: tokens rest := by
  have hmark := tokens_mark m (List.mem_append_left _ h)
  have hstops : Stops (tokens m.toList) rest := by
    rw [hmark]
    rintro _ ⟨⟩ c -
    exact stopsAt_plainMark h c
  rw [tokens_append hstops, hmark]
  rfl

theorem tokens_opening {callee : Callee} (h : callee.Callable) (rest : List Char) :
    tokens (callee.written.toList ++ "(".toList ++ rest) = callee.openingTokens ++ tokens rest := by
  cases callee with
  | bridge entity operation =>
    obtain ⟨he, ho, -⟩ := h
    simp only [Callee.written, String.toList_append, List.append_assoc]
    rw [tokens_name he (by rintro _ ⟨⟩; decide), tokens_plainMark (by decide),
      tokens_name ho (by rintro _ ⟨⟩; decide), tokens_plainMark (by decide)]
    rfl
  | function name =>
    simp only [Callee.written, String.toList_append, List.append_assoc]
    rw [tokens_plainMark (by decide), tokens_name h (by rintro _ ⟨⟩; decide),
      tokens_plainMark (by decide)]
    rfl

end Openings

section Statements

variable {callee found : Callee} {args : List Argument}

theorem arguments_finish {ws : List Word} {form : List Argument → Statement} {s : Statement}
    (h : (Grammar.arguments (markWord [] "(" :: ws) >>= fun a => Grammar.finish (form a.1) a.2) =
      some s) :
    ∃ inside after, Grammar.closeGroup 0 ws = some (inside, after) ∧
      s = form ((Grammar.splitCommas 0 inside).filterMap Grammar.argument) ∧
      Grammar.atEnd after = true := by
  obtain ⟨found, hargs, h⟩ := Option.bind_eq_some_iff.1 h
  simp only [Grammar.arguments, Grammar.punct_markWord, if_true, Option.bind_eq_bind,
    Option.bind_some] at hargs
  obtain ⟨group, hgroup, hargs⟩ := Option.bind_eq_some_iff.1 hargs
  cases hargs
  rw [Grammar.finish] at h
  split at h
  · rename_i hend
    cases h
    exact ⟨group.1, group.2, hgroup, rfl, hend⟩
  · cases h

/-- A statement that begins like a call, and is one, calls that callee. -/
theorem statement_opening {ts : List Token} {s : Statement}
    (hs : Grammar.statement (words (callee.openingTokens ++ ts)) = some s)
    (hcall : s.call? = some (found, args)) :
    found = callee ∧ ∃ inside after, Grammar.closeGroup 0 (words ts) = some (inside, after) ∧
      args = (Grammar.splitCommas 0 inside).filterMap Grammar.argument ∧
      Grammar.atEnd after = true := by
  cases callee with
  | bridge entity operation =>
    have hwords : words ((Callee.bridge entity operation).openingTokens ++ ts) =
        nameWord [] entity :: markWord [] "::" :: nameWord [] operation :: markWord [] "(" ::
          words ts := rfl
    rw [hwords, Grammar.statement_nameWord] at hs
    cases hform : Grammar.announced (asciiLower entity) (markWord [] "::" :: nameWord [] operation ::
        markWord [] "(" :: words ts) with
    | some form =>
      rw [hform] at hs
      have hnone := Grammar.announced_noCall hform s hs
      rw [hcall] at hnone
      cases hnone
    | none =>
      rw [hform, Option.getD_none, Grammar.callOrAssignment] at hs
      have hread : Grammar.call (nameWord [] entity :: markWord [] "::" :: nameWord [] operation ::
          markWord [] "(" :: words ts) =
            (Grammar.arguments (markWord [] "(" :: words ts) >>= fun a =>
              Grammar.finish (Statement.bridgeCall entity operation a.1) a.2) := by
        simp [Grammar.call]
      simp only [Grammar.punct_nameWord, hread] at hs
      generalize hc : (Grammar.arguments (markWord [] "(" :: words ts) >>= fun a =>
        Grammar.finish (Statement.bridgeCall entity operation a.1) a.2) = found at hs
      cases found with
      | some s' =>
        cases hs
        obtain ⟨inside, after, hgroup, rfl, hend⟩ := arguments_finish hc
        cases hcall
        exact ⟨rfl, inside, after, hgroup, rfl, hend⟩
      | none =>
        have hnone := Grammar.assignment_noCall _ s hs
        rw [hcall] at hnone
        cases hnone
  | function name =>
    have hwords : words ((Callee.function name).openingTokens ++ ts) =
        markWord [] "::" :: nameWord [] name :: markWord [] "(" :: words ts := rfl
    have hread : Grammar.statement (markWord [] "::" :: nameWord [] name :: markWord [] "(" ::
        words ts) = (Grammar.arguments (markWord [] "(" :: words ts) >>= fun a =>
          Grammar.finish (Statement.functionCall name a.1) a.2) := by
      simp [Grammar.statement, Grammar.callOrAssignment]
    rw [hwords, hread] at hs
    obtain ⟨inside, after, hgroup, rfl, hend⟩ := arguments_finish hs
    cases hcall
    exact ⟨rfl, inside, after, hgroup, rfl, hend⟩

end Statements

section Expressions

variable {callee : Callee} {inside rest : List Token} {close : Token}

theorem clockReading_eq_none {entity : String}
    (h : asciiLower entity ∉ ["currenttimestamp", "currenttime", "currentdate"]) (kind : TokenKind) :
    clockReading ⟨kind, entity.toList⟩ = none := by
  have htext : (⟨kind, entity.toList⟩ : Token).text = entity := String.ofList_toList
  rw [clockReading, htext]
  split
  case h_4 => rfl
  all_goals simp_all

theorem parenthesized_open {ts : List Token} (hclose : closeParen 0 ts = some (inside, rest)) :
    parenthesized (⟨.punct, "(".toList⟩ :: ts) = some (inside, rest) := by
  simp [parenthesized, hclose, Token.isPunct]

theorem guard_eq_some {p : Prop} [Decidable p] (h : p) : (guard p : Option Unit) = some () :=
  if_pos h

/-- An expression that begins like a call is the call, and what stands behind it. -/
theorem pieces_opening {ts : List Token} (h : callee.Callable)
    (hclose : closeParen 0 ts = some (inside, rest)) :
    pieces (callee.openingTokens ++ ts) =
      .call callee ((argumentParts inside).map fun a => .mk a.1 (pieces a.2)) :: pieces rest := by
  cases callee with
  | bridge entity operation =>
    have hconstruct : construct ⟨.ident, entity.toList⟩ (⟨.punct, "::".toList⟩ ::
        ⟨.ident, operation.toList⟩ :: ⟨.punct, "(".toList⟩ :: ts) =
          (.call (.bridge entity operation) (argumentParts inside), rest) := by
      have hbridge : bridgeCall ⟨.ident, entity.toList⟩ (⟨.punct, "::".toList⟩ ::
          ⟨.ident, operation.toList⟩ :: ⟨.punct, "(".toList⟩ :: ts) =
            some (.call (.bridge entity operation) (argumentParts inside), rest) := by
        rw [bridgeCall, guard_eq_some, parenthesized_open hclose]
        · simp [Token.text]
        · rfl
      have hoperand : operand (⟨.punct, "::".toList⟩ :: ⟨.ident, operation.toList⟩ ::
          ⟨.punct, "(".toList⟩ :: ts) = none := rfl
      simp only [construct, identConstruct, clockReading_eq_none h.2.2, hoperand, hbridge]
      cases emptinessTest ⟨.ident, entity.toList⟩ <;> rfl
    rw [Callee.openingTokens, List.cons_append, pieces_cons]
    simp only [List.cons_append, List.nil_append]
    rw [hconstruct]
    rfl
  | function name =>
    have hconstruct : construct ⟨.punct, "::".toList⟩ (⟨.ident, name.toList⟩ ::
        ⟨.punct, "(".toList⟩ :: ts) = (.call (.function name) (argumentParts inside), rest) := by
      have hfunction : functionCall (⟨.ident, name.toList⟩ :: ⟨.punct, "(".toList⟩ :: ts) =
          some (.call (.function name) (argumentParts inside), rest) := by
        rw [functionCall, guard_eq_some, parenthesized_open hclose]
        · simp [Token.text]
        · rfl
      have hcolons : (⟨.punct, "::".toList⟩ : Token).isPunct "::" = true := rfl
      simp only [construct, hcolons, if_true, hfunction, Option.getD_some]
    rw [Callee.openingTokens, List.cons_append, pieces_cons]
    simp only [List.cons_append, List.nil_append]
    rw [hconstruct]
    rfl

theorem dropTrailing_concat {p : Token → Bool} {front tail : List Token} {t : Token}
    (ht : p t = false) (htail : ∀ u ∈ tail, p u = true) :
    dropTrailing p (front ++ t :: tail) = front ++ [t] := by
  rw [dropTrailing, List.reverse_append, List.reverse_cons, List.append_assoc,
    List.dropWhile_append_of_pos fun u hu => htail u (List.mem_reverse.1 hu),
    List.singleton_append, List.dropWhile_cons_of_neg (by simp [ht]), List.reverse_cons,
    List.reverse_reverse]

theorem countP_openingTokens (callee : Callee) :
    callee.openingTokens.countP (·.isPunct "(") = 1 ∧
      callee.openingTokens.countP (·.isPunct ")") = 0 := by
  cases callee <;> simp [Callee.openingTokens, Token.isPunct]

/-- Terminators behind a call go, and its own parenthesis stays. -/
theorem fragment_call (callee : Callee) {after : List Token}
    (hclose : closeParen 0 (inside ++ close :: after) = some (inside, after))
    (hmark : close.isPunct ")" = true)
    (hafter : ∀ t ∈ after, (t.isBlank || t.isPunct ";") = true) :
    fragment (callee.openingTokens ++ (inside ++ close :: after)) =
      callee.openingTokens ++ (inside ++ [close]) := by
  have hhead : (callee.openingTokens ++ (inside ++ close :: after)).dropWhile Token.isBlank =
      callee.openingTokens ++ (inside ++ close :: after) := by
    cases callee <;> rfl
  have hstays : (close.isBlank || close.isPunct ";") = false := by
    rw [Token.isBlank_of_punct hmark, Token.isPunct_of_isPunct hmark]
    rfl
  have hkept : dropTrailing (fun t => t.isBlank || t.isPunct ";")
      (callee.openingTokens ++ (inside ++ close :: after)) =
        callee.openingTokens ++ (inside ++ [close]) := by
    rw [← List.append_assoc, dropTrailing_concat hstays hafter, List.append_assoc]
  have hbalanced : endsUnbalanced (callee.openingTokens ++ (inside ++ [close])) = false := by
    have hcount := closeParen_count hclose
    obtain ⟨hopens, hcloses⟩ := countP_openingTokens callee
    have hopen : close.isPunct "(" = false := Token.isPunct_of_isPunct hmark
    have hle : ¬(callee.openingTokens ++ (inside ++ [close])).countP (·.isPunct "(") <
        (callee.openingTokens ++ (inside ++ [close])).countP (·.isPunct ")") := by
      simp only [List.countP_append, List.countP_singleton, hopens, hcloses, hmark, hopen, if_true,
        Bool.false_eq_true, if_false]
      omega
    rw [endsUnbalanced, decide_eq_false hle, Bool.and_false]
  simp only [fragment, dropTerminators, hhead, hkept, hbalanced, Bool.and_false, Bool.false_eq_true,
    if_false]

end Expressions

def Argument.actual (a : Argument) : Actual := .mk a.name (parseExpression a.value)

theorem renderActuals_eq (scope : Scope) (args : List Argument) :
    renderActuals scope (args.map Argument.actual) = scope.callArguments args := by
  induction args with
  | nil => rfl
  | cons a args ih =>
    rw [List.map_cons, renderActuals, ih, Argument.actual, Actual.render, Scope.callArguments,
      Scope.expression]

namespace Callee

def statementOpening : Callee → String
  | .bridge entity operation => "rt.bridge(" ++ Scope.quoted entity ++ ", " ++ Scope.quoted operation
  | .function name => "rt.call_function(" ++ Scope.quoted name

def failure : Callee → String
  | .bridge entity operation => "bridge " ++ entity ++ "::" ++ operation ++ " failed"
  | .function name => "function " ++ name ++ " failed"

end Callee

theorem statement_of_call {line : String} {call : Callee × List Argument}
    (h : (parseLine line).call? = some call) :
    ∃ s, Grammar.statement (words (tokens (trim line.toList))) = some s ∧ s.call? = some call := by
  rw [parseLine] at h
  split at h
  · cases h
  · cases hs : Grammar.statement (words (tokens (trim line.toList))) with
    | none =>
      rw [hs] at h
      cases h
    | some s =>
      rw [hs] at h
      exact ⟨s, rfl, h⟩

/-- The value of an argument is read as an expression of its own, as it is inside of the call. -/
theorem parseExpression_argument {line : List Char} {inside : List Token} (hline : trim line = line)
    (hinside : inside <:+: tokens line) {a : Option String × List Token}
    (ha : a ∈ argumentSources inside) :
    parseExpression (String.ofList (spell (unpadded a.2))) = pieces (fragment a.2) := by
  obtain ⟨before, after, hvalue, -⟩ := unpadded_takes a.2
  have hinner : unpadded a.2 <:+: a.2 := ⟨before, after, by rw [List.append_assoc, ← hvalue]⟩
  have hread := readsAlone_of_isInfix hline
    (hinner.trans ((argumentSources_isInfix ha).trans hinside))
  rw [hread.2.2, fragment_unpadded]

theorem parseExpression_call {line : String} {callee found : Callee} {rest : List Char}
    {args : List Argument} (hcallee : callee.Callable)
    (hline : trim line.toList = callee.written.toList ++ "(".toList ++ rest)
    (hcall : (parseLine line).call? = some (found, args)) :
    found = callee ∧ parseExpression line = [.call callee (args.map Argument.actual)] := by
  have htokens := tokens_opening hcallee rest
  rw [← hline] at htokens
  obtain ⟨s, hs, hcall⟩ := statement_of_call hcall
  rw [htokens] at hs
  obtain ⟨rfl, wordsInside, wordsBehind, hgroup, rfl, hend⟩ := statement_opening hs hcall
  rw [words, closeGroup_wordsAfter] at hgroup
  obtain ⟨⟨inside, after⟩, hclose, he⟩ := Option.map_eq_some_iff.1 hgroup
  cases he
  obtain ⟨close, hrest, hmark⟩ := closeParen_takes hclose
  rw [hrest] at htokens hclose
  have hinside : inside <:+: tokens (trim line.toList) :=
    ⟨found.openingTokens, close :: after, by rw [htokens, List.append_assoc]⟩
  have hargs : ((argumentSources inside).map fun a =>
      (⟨a.1, String.ofList (spell (unpadded a.2))⟩ : Argument)).map Argument.actual =
        (argumentParts inside).map fun a => .mk a.1 (pieces a.2) := by
    rw [argumentParts_eq, List.map_map, List.map_map]
    refine List.map_congr_left fun a ha => ?_
    exact congrArg (Actual.mk a.1)
      (parseExpression_argument (trim_trim line.toList) hinside ha)
  refine ⟨rfl, ?_⟩
  rw [parseExpression, htokens, fragment_call found hclose hmark (terminators_of_atEnd hend),
    pieces_opening hcallee (closeParen_replace hclose []), pieces_nil, ← words, arguments_eq, hargs]

/-- The line is one call of the callee: with the same arguments, notes included, whether it is a
statement of a body or an expression. -/
structure CallsAlike (line : String) (callee : Callee) (args : List Argument) : Prop where
  expression : parseExpression line = [.call callee (args.map Argument.actual)]
  expressionCode : ∀ scope : Scope, scope.expression line =
    ⟨callee.opening ++ (scope.callArguments args).text ++ ")", (scope.callArguments args).notes⟩
  statementCode : ∀ (scope : Scope) (origins : List (String × String)) (text : String),
    scope.statement origins text (parseLine line) =
      ⟨scope, [.guarded (callee.statementOpening ++ (scope.callArguments args).text ++ ")")
        callee.failure], (scope.expression line).notes⟩
  bodyNotes : ∀ (scope : Scope) (origins : List (String × String)) (number : Nat) (text : String)
    (more : List BodyLine), (scope.body origins (⟨number, text, parseLine line⟩ :: more)).2 =
      (scope.expression line).notes.map (Note.under ("line" ++ toString number)) ++
        (scope.body origins more).2

theorem Scope.statement_call (scope : Scope) (origins : List (String × String)) (text : String)
    {s : Statement} {callee : Callee} {args : List Argument} (h : s.call? = some (callee, args)) :
    scope.statement origins text s =
      ⟨scope, [.guarded (callee.statementOpening ++ (scope.callArguments args).text ++ ")")
        callee.failure], (scope.callArguments args).notes⟩ := by
  cases s with
  | bridgeCall | functionCall =>
    cases h
    rfl
  | _ => cases h

/-- A line that begins with the callee and its parenthesis, and is a call as a statement, is the
same call as an expression. -/
theorem statement_calls_like_expression (line : String) (callee found : Callee) (rest : List Char)
    (args : List Argument) (hcallee : callee.Callable)
    (hline : trim line.toList = callee.written.toList ++ "(".toList ++ rest)
    (hcall : (parseLine line).call? = some (found, args)) :
    found = callee ∧ CallsAlike line callee args := by
  obtain ⟨rfl, hpieces⟩ := parseExpression_call hcallee hline hcall
  have hcode : ∀ scope : Scope, scope.expression line =
      ⟨found.opening ++ (scope.callArguments args).text ++ ")",
        (scope.callArguments args).notes⟩ := by
    intro scope
    rw [Scope.expression, hpieces, renderPieces, renderPieces, Piece.render, renderActuals_eq]
    simp [Rendered.append]
  refine ⟨rfl, hpieces, hcode, ?_, ?_⟩
  · intro scope origins text
    rw [scope.statement_call origins text hcall, hcode]
  · intro scope origins number text more
    simp only [Scope.body, scope.statement_call origins text hcall, hcode]

/-- Commas in strings and brackets part nothing, and the terminators go. -/
theorem log_called_alike :
    (parseLine " LOG::write('a,)', level : ::f(1, [x, 2]) ,; );").call? =
        some (.bridge "LOG" "write",
          [⟨none, "'a,)'"⟩, ⟨some "level", "::f(1, [x, 2])"⟩, ⟨none, ";"⟩]) ∧
      CallsAlike " LOG::write('a,)', level : ::f(1, [x, 2]) ,; );" (.bridge "LOG" "write")
        [⟨none, "'a,)'"⟩, ⟨some "level", "::f(1, [x, 2])"⟩, ⟨none, ";"⟩] := by
  have hcall : (parseLine " LOG::write('a,)', level : ::f(1, [x, 2]) ,; );").call? =
      some (.bridge "LOG" "write",
        [⟨none, "'a,)'"⟩, ⟨some "level", "::f(1, [x, 2])"⟩, ⟨none, ";"⟩]) := by decide +kernel
  have hcallee : (Callee.bridge "LOG" "write").Callable :=
    ⟨by decide +kernel, by decide +kernel, by decide +kernel⟩
  exact ⟨hcall, (statement_calls_like_expression _ _ _ "'a,)', level : ::f(1, [x, 2]) ,; );".toList _
    hcallee (by decide +kernel) hcall).2⟩

end ExecutableUml.Action
