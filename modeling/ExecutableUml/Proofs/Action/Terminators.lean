import ExecutableUml.Proofs.Action.Clauses
import ExecutableUml.Proofs.Action.TokenPartition
import ExecutableUml.Proofs.Text.Split

/-! Semicolons at the end of a line change nothing. A reader that hands words on hands the
semicolons on behind them, and one that reads to the end of the line stops in front of them; so
every form of the grammar is read, or refused, as if they were not there. -/

namespace ExecutableUml.Action

open Text

namespace Word

variable {w : Word} (h : w.isPunct ";" = true)

include h

theorem isIdent_of_semicolon : w.isIdent = false := by
  simp only [isPunct, Token.isPunct, Bool.and_eq_true, beq_iff_eq] at h
  rw [isIdent, Token.isIdent, h.1]
  rfl

theorem isKeyword_of_semicolon (word : String) : w.isKeyword word = false := by
  have hident := isIdent_of_semicolon h
  rw [isIdent] at hident
  rw [isKeyword, Token.isKeyword, hident, Bool.false_and]

theorem isPunct_of_semicolon (mark : String) (hmark : ";" ≠ mark) : w.isPunct mark = false := by
  rw [isPunct] at h ⊢
  rw [Token.isPunct_of_isPunct h, decide_eq_false hmark]

end Word

namespace Grammar

section Binds

variable {α β : Type} {found : Option α} {after : α → α} {f : α → Option β}

theorem map_bind_map {further : β → β} (h : ∀ a, f (after a) = (f a).map further) :
    (found.map after >>= f) = (found >>= f).map further := by
  cases found with
  | none => rfl
  | some a => exact h a

theorem map_bind_eq (h : ∀ a, f (after a) = f a) : (found.map after >>= f) = (found >>= f) := by
  cases found with
  | none => rfl
  | some a => exact h a

end Binds

section Terminators

variable {ends : List Word} (h : ∀ w ∈ ends, w.isPunct ";" = true) (ws : List Word)

include h

/-- A reader that looks at the first word finds none among the semicolons. -/
theorem read_append {α : Type} {read : List Word → Option α} {after : α → α}
    (hnil : read [] = none) (hend : ∀ w rest, w.isPunct ";" = true → read (w :: rest) = none)
    (hcons : ∀ w rest, read (w :: (rest ++ ends)) = (read (w :: rest)).map after) :
    read (ws ++ ends) = (read ws).map after := by
  cases ws with
  | cons w ws => exact hcons w ws
  | nil =>
    rw [hnil, List.nil_append]
    cases ends with
    | nil => exact hnil
    | cons w ends => exact hend w ends (h w List.mem_cons_self)

theorem ident_append : ident (ws ++ ends) = (ident ws).map fun p => (p.1, p.2 ++ ends) := by
  refine read_append h ws rfl (fun w rest hw => ?_) fun w rest => ?_
  · rw [ident, Word.isIdent_of_semicolon hw]
    rfl
  · rw [ident, ident]
    split <;> rfl

theorem keyword_append (word : String) :
    keyword word (ws ++ ends) = (keyword word ws).map (· ++ ends) := by
  refine read_append h ws rfl (fun w rest hw => ?_) fun w rest => ?_
  · rw [keyword, Word.isKeyword_of_semicolon hw]
    rfl
  · rw [keyword, keyword]
    split <;> rfl

theorem punct_append {mark : String} (hmark : ";" ≠ mark) :
    punct mark (ws ++ ends) = (punct mark ws).map (· ++ ends) := by
  refine read_append h ws rfl (fun w rest hw => ?_) fun w rest => ?_
  · rw [punct, Word.isPunct_of_semicolon hw mark hmark]
    rfl
  · rw [punct, punct]
    split <;> rfl

theorem content_append : content (ws ++ ends) = content ws := by
  rw [content, List.reverse_append,
    List.dropWhile_append_of_pos fun w hw => h w (List.mem_reverse.1 hw), ← content]

theorem atEnd_append : atEnd (ws ++ ends) = atEnd ws := by
  rw [atEnd, content_append h, ← atEnd]

theorem finish_append {α : Type} (value : α) : finish value (ws ++ ends) = finish value ws := by
  rw [finish, atEnd_append h, ← finish]

theorem rest_append : rest (ws ++ ends) = rest ws := by
  rw [rest, atEnd_append h, content_append h, ← rest]

theorem condition_append : condition (ws ++ ends) = condition ws := by
  rw [condition, content_append h, ← condition]

theorem closeGroup_terminators (depth : Nat) : closeGroup depth ends = none := by
  induction ends generalizing depth with
  | nil => rfl
  | cons w ends ih =>
    obtain ⟨hw, hends⟩ := List.forall_mem_cons.1 h
    rw [closeGroup.eq_def]
    simp only [Word.isPunct_of_semicolon hw ")" (by decide),
      Word.isPunct_of_semicolon hw "(" (by decide), ih hends]
    rfl

theorem closeGroup_append (depth : Nat) :
    closeGroup depth (ws ++ ends) = (closeGroup depth ws).map fun p => (p.1, p.2 ++ ends) := by
  induction ws generalizing depth with
  | nil => exact closeGroup_terminators h depth
  | cons w ws ih =>
    rw [List.cons_append, closeGroup.eq_def, closeGroup.eq_def depth (w :: ws)]
    simp only [ih]
    split
    · split
      · rfl
      · rw [Option.map_map, Option.map_map]
        rfl
    · rw [Option.map_map, Option.map_map]
      rfl

theorem arguments_append :
    arguments (ws ++ ends) = (arguments ws).map fun p => (p.1, p.2 ++ ends) := by
  rw [arguments, arguments, punct_append h ws (by decide)]
  refine map_bind_map fun group => ?_
  rw [closeGroup_append h]
  exact map_bind_map fun _ => rfl

theorem afterBracket_append : afterBracket (ws ++ ends) = (afterBracket ws).map (· ++ ends) := by
  induction ws with
  | nil =>
    rw [List.nil_append]
    induction ends with
    | nil => rfl
    | cons w ends ih =>
      obtain ⟨hw, hends⟩ := List.forall_mem_cons.1 h
      change afterBracket (w :: ends) = none
      rw [afterBracket, Word.isPunct_of_semicolon hw "]" (by decide)]
      exact ih hends
  | cons w ws ih =>
    rw [List.cons_append, afterBracket, afterBracket, ih]
    split <;> rfl

omit h in
/-- One step, word by word. -/
theorem hop_eq : hop ws = do
    let ws ← punct "->" ws
    let cls ← ident ws
    let ws ← punct "[" cls.2
    let rel ← ident ws
    let after ← afterBracket rel.2
    return (⟨cls.1, rel.1⟩, after) := by
  rcases ws with _ | ⟨arrow, _ | ⟨cls, _ | ⟨bracket, _ | ⟨rel, ws⟩⟩⟩⟩
  · rfl
  · cases ha : arrow.isPunct "->" <;> simp [hop, punct, ident, ha]
  · cases ha : arrow.isPunct "->" <;> cases hc : cls.isIdent <;> simp [hop, punct, ident, ha, hc]
  · cases ha : arrow.isPunct "->" <;> cases hc : cls.isIdent <;> cases hb : bracket.isPunct "[" <;>
      simp [hop, punct, ident, ha, hc, hb]
  · cases ha : arrow.isPunct "->" <;> cases hc : cls.isIdent <;> cases hb : bracket.isPunct "[" <;>
      cases hr : rel.isIdent <;> simp [hop, punct, ident, ha, hc, hb, hr]
    cases afterBracket ws <;> rfl

theorem hop_append : hop (ws ++ ends) = (hop ws).map fun p => (p.1, p.2 ++ ends) := by
  rw [hop_eq, hop_eq, punct_append h ws (by decide)]
  refine map_bind_map fun ws => ?_
  rw [ident_append h]
  refine map_bind_map fun cls => ?_
  rw [punct_append h cls.2 (by decide)]
  refine map_bind_map fun ws => ?_
  rw [ident_append h]
  refine map_bind_map fun rel => ?_
  rw [afterBracket_append h]
  exact map_bind_map fun _ => rfl

omit h in
theorem hops_eq_none {ws tail : List Word} (hp : punct "->" ws = some tail) (hs : hop ws = none) :
    hops ws = none := by
  rw [hops, hp]
  simp only
  split
  · rfl
  · rename_i e
    cases hs.symm.trans e

theorem hops_append : hops (ws ++ ends) = (hops ws).map fun p => (p.1, p.2 ++ ends) := by
  fun_induction hops ws with
  | case1 ws hp =>
    rw [hops, punct_append h ws (by decide), hp]
    rfl
  | case2 ws tail hp hs =>
    have hpunct : punct "->" (ws ++ ends) = some (tail ++ ends) := by
      rw [punct_append h ws (by decide), hp]
      rfl
    refine hops_eq_none hpunct ?_
    rw [hop_append h, hs]
    rfl
  | case3 ws tail hp s behind hs ih =>
    have hstep : hop (ws ++ ends) = some (s, behind ++ ends) := by
      rw [hop_append h, hs]
      rfl
    have hpunct : punct "->" (ws ++ ends) = some (tail ++ ends) := by
      rw [punct_append h ws (by decide), hp]
      rfl
    rw [hops_eq_of_hop hpunct hstep, ih, Option.map_map, Option.map_map]
    rfl

section Steps

variable {α : Type}

theorem keyword_bind {word : String} {f : List Word → Option α}
    (hf : ∀ ws, f (ws ++ ends) = f ws) :
    (keyword word (ws ++ ends) >>= f) = (keyword word ws >>= f) := by
  rw [keyword_append h]
  exact map_bind_eq hf

theorem ident_bind {f : String × List Word → Option α}
    (hf : ∀ x ws, f (x, ws ++ ends) = f (x, ws)) :
    (ident (ws ++ ends) >>= f) = (ident ws >>= f) := by
  rw [ident_append h]
  exact map_bind_eq fun p => hf p.1 p.2

theorem arguments_bind {f : List Argument × List Word → Option α}
    (hf : ∀ args ws, f (args, ws ++ ends) = f (args, ws)) :
    (arguments (ws ++ ends) >>= f) = (arguments ws >>= f) := by
  rw [arguments_append h]
  exact map_bind_eq fun p => hf p.1 p.2

end Steps

theorem whereClause_append : whereClause (ws ++ ends) = whereClause ws := by
  rw [whereClause, whereClause, atEnd_append h]
  split
  · rfl
  · refine keyword_bind h ws fun ws => ?_
    rw [condition_append h]

/-- `using link`, or nothing, up to the end of the line. -/
def usingLink (relId : String) (ws : List Word) : Option (String × Option String) :=
  match keyword "using" ws with
  | none => finish (relId, none) ws
  | some ws => ident ws >>= fun link => finish (relId, some link.1) link.2

theorem usingLink_append (relId : String) : usingLink relId (ws ++ ends) = usingLink relId ws := by
  rw [usingLink, usingLink, keyword_append h]
  cases keyword "using" ws with
  | none => exact finish_append h ws _
  | some ws =>
    refine ident_bind h ws fun link ws => ?_
    exact finish_append h ws _

theorem across_append : across (ws ++ ends) = across ws := by
  refine keyword_bind h ws fun ws => ?_
  refine ident_bind h ws fun relId ws => ?_
  simp only [punct_append h ws (show ";" ≠ "." by decide)]
  rcases punct "." ws with _ | _ | ⟨phrase, tail⟩
  · exact usingLink_append h ws relId
  · -- a point at the end wants a phrase, and a semicolon is none
    cases ends with
    | nil => rfl
    | cons w ends =>
      have hw := h w List.mem_cons_self
      have hphrase : (w.token.kind == .string || w.isIdent) = false := by
        rw [Word.isIdent_of_semicolon hw, Bool.or_false]
        simp only [Word.isPunct, Token.isPunct, Bool.and_eq_true, beq_iff_eq] at hw
        rw [hw.1]
        rfl
      exact if_neg (Bool.eq_false_iff.1 hphrase)
  · simp only [Option.map_some, List.cons_append]
    split
    · exact usingLink_append h tail relId
    · rfl

def eventArguments (keyLetters : Option String) (label : String) (ws : List Word) :
    Option (Option String × String × List Argument × List Word) :=
  match punct "(" ws with
  | none => some (keyLetters, label, [], ws)
  | some _ => arguments ws >>= fun args => some (keyLetters, label, args.1, args.2)

theorem eventArguments_append (keyLetters : Option String) (label : String) :
    eventArguments keyLetters label (ws ++ ends) = (eventArguments keyLetters label ws).map
      fun p => (p.1, p.2.1, p.2.2.1, p.2.2.2 ++ ends) := by
  rw [eventArguments, eventArguments, punct_append h ws (by decide), arguments_append h]
  cases punct "(" ws with
  | none => rfl
  | some _ => exact map_bind_map fun _ => rfl

theorem eventSpec_append :
    eventSpec (ws ++ ends) =
      (eventSpec ws).map fun p => (p.1, p.2.1, p.2.2.1, p.2.2.2 ++ ends) := by
  rw [eventSpec, eventSpec, ident_append h]
  refine map_bind_map fun first => ?_
  obtain ⟨first, ws⟩ := first
  simp only [punct_append h ws (show ";" ≠ ":" by decide)]
  cases punct ":" ws with
  | none => exact eventArguments_append h ws none first
  | some ws =>
    simp only [Option.map_some, ident_append h, Option.map_map]
    cases ident ws with
    | none => rfl
    | some label => exact eventArguments_append h label.2 (some first) label.1

theorem eventSpec_bind {α : Type}
    {f : Option String × String × List Argument × List Word → Option α}
    (hf : ∀ keyLetters label args ws,
      f (keyLetters, label, args, ws ++ ends) = f (keyLetters, label, args, ws)) :
    (eventSpec (ws ++ ends) >>= f) = (eventSpec ws >>= f) := by
  rw [eventSpec_append h]
  exact map_bind_eq fun p => hf p.1 p.2.1 p.2.2.1 p.2.2.2

theorem elseBranch_append : elseBranch (ws ++ ends) = elseBranch ws := by
  rw [elseBranch, elseBranch, keyword_append h]
  cases keyword "if" ws with
  | none => exact finish_append h ws _
  | some ws => exact congrArg (Option.map Statement.elseIf) (condition_append h ws)

theorem endOfBlock_append : endOfBlock (ws ++ ends) = endOfBlock ws := by
  rw [endOfBlock, endOfBlock, keyword_append h, keyword_append h, keyword_append h]
  rcases keyword "if" ws with _ | tail
  · rcases keyword "for" ws with _ | tail
    · rcases keyword "while" ws with _ | tail
      · rfl
      · exact finish_append h tail _
    · exact finish_append h tail _
  · exact finish_append h tail _

theorem forEachIn_append : forEachIn (ws ++ ends) = forEachIn ws := by
  refine keyword_bind h ws fun ws => ?_
  refine ident_bind h ws fun var ws => ?_
  refine keyword_bind h ws fun ws => ?_
  rw [rest_append h]

theorem cardinality_append :
    cardinality (ws ++ ends) = (cardinality ws).map fun p => (p.1, p.2 ++ ends) := by
  rw [cardinality, cardinality, keyword_append h, keyword_append h, keyword_append h]
  rcases keyword "any" ws with _ | tail
  · rcases keyword "one" ws with _ | tail
    · rcases keyword "many" ws with _ | tail <;> rfl
    · rfl
  · rfl

theorem selectFrom_append : selectFrom (ws ++ ends) = selectFrom ws := by
  rw [selectFrom, selectFrom, cardinality_append h]
  refine map_bind_eq fun card => ?_
  refine ident_bind h card.2 fun var ws => ?_
  simp only [keyword_append h ws "from"]
  cases keyword "from" ws with
  | some ws =>
    refine keyword_bind h ws fun ws => ?_
    refine keyword_bind h ws fun ws => ?_
    refine ident_bind h ws fun classRef ws => ?_
    simp only [whereClause_append h]
  | none =>
    refine keyword_bind h ws fun ws => ?_
    refine keyword_bind h ws fun ws => ?_
    refine ident_bind h ws fun source ws => ?_
    simp only [hops_append h]
    refine map_bind_eq fun steps => ?_
    simp only [whereClause_append h]

theorem create_append : create (ws ++ ends) = create ws := by
  rw [create, create, keyword_append h ws "object"]
  cases keyword "object" ws with
  | some ws =>
    refine keyword_bind h ws fun ws => ?_
    refine ident_bind h ws fun var ws => ?_
    refine keyword_bind h ws fun ws => ?_
    refine ident_bind h ws fun classRef ws => ?_
    exact finish_append h ws _
  | none =>
    refine keyword_bind h ws fun ws => ?_
    refine keyword_bind h ws fun ws => ?_
    refine ident_bind h ws fun var ws => ?_
    refine keyword_bind h ws fun ws => ?_
    refine eventSpec_bind h ws fun keyLetters label args ws => ?_
    refine keyword_bind h ws fun ws => ?_
    rw [rest_append h]

theorem delete_append : delete (ws ++ ends) = delete ws := by
  refine keyword_bind h ws fun ws => ?_
  refine keyword_bind h ws fun ws => ?_
  refine ident_bind h ws fun var ws => ?_
  exact finish_append h ws _

theorem relate_append : relate (ws ++ ends) = relate ws := by
  refine ident_bind h ws fun source ws => ?_
  refine keyword_bind h ws fun ws => ?_
  refine ident_bind h ws fun target ws => ?_
  simp only [across_append h]

theorem unrelate_append : unrelate (ws ++ ends) = unrelate ws := by
  refine ident_bind h ws fun source ws => ?_
  refine keyword_bind h ws fun ws => ?_
  refine ident_bind h ws fun target ws => ?_
  simp only [across_append h, hops_append h, punct_append h ws (show ";" ≠ "->" by decide)]
  cases punct "->" ws with
  | none => rfl
  | some _ =>
    refine map_bind_eq fun steps => ?_
    obtain ⟨steps, ws⟩ := steps
    rcases steps with _ | ⟨s, _ | ⟨s', steps⟩⟩
    · rfl
    · simp only [across_append h]
    · rfl

theorem send_append : send (ws ++ ends) = send ws := by
  refine ident_bind h ws fun message ws => ?_
  refine arguments_bind h ws fun args ws => ?_
  refine keyword_bind h ws fun ws => ?_
  rw [rest_append h]

/-- The word behind the first one is the same, or a semicolon that tells no form. -/
theorem generate_append : generate (ws ++ ends) = generate ws := by
  have hform : ((ws ++ ends).tail.head?.any fun w =>
      w.isPunct ":" || w.isPunct "(" || w.isKeyword "to") =
        ws.tail.head?.any fun w => w.isPunct ":" || w.isPunct "(" || w.isKeyword "to" := by
    have hends : ∀ w ∈ ends,
        (w.isPunct ":" || w.isPunct "(" || w.isKeyword "to") = false := fun w hw => by
      rw [Word.isPunct_of_semicolon (h w hw) ":" (by decide),
        Word.isPunct_of_semicolon (h w hw) "(" (by decide),
        Word.isKeyword_of_semicolon (h w hw)]
      rfl
    rcases ws with _ | ⟨w, _ | ⟨v, ws⟩⟩
    · rcases ends with _ | ⟨w, _ | ⟨v, ends⟩⟩
      · rfl
      · rfl
      · exact hends v (by simp)
    · cases ends with
      | nil => rfl
      | cons v ends => exact hends v List.mem_cons_self
    · rfl
  rw [generate, generate, hform]
  split
  · refine eventSpec_bind h ws fun keyLetters event args ws => ?_
    refine keyword_bind h ws fun ws => ?_
    rw [rest_append h]
  · refine ident_bind h ws fun var ws => ?_
    exact finish_append h ws _

theorem call_append : call (ws ++ ends) = call ws := by
  refine ident_bind h ws fun head ws => ?_
  simp only [punct_append h ws (show ";" ≠ "::" by decide),
    punct_append h ws (show ";" ≠ "." by decide)]
  cases punct "::" ws with
  | some ws =>
    refine ident_bind h ws fun operation ws => ?_
    refine arguments_bind h ws fun args ws => ?_
    exact finish_append h ws _
  | none =>
    cases punct "." ws with
    | some ws =>
      refine ident_bind h ws fun method ws => ?_
      refine arguments_bind h ws fun args ws => ?_
      exact finish_append h ws _
    | none =>
      simp only [Option.map_none]
      split
      · rfl
      · refine arguments_bind h ws fun args ws => ?_
        exact finish_append h ws _

theorem assignment_append : assignment (ws ++ ends) = assignment ws := by
  have hends : ∀ w ∈ ends, (!w.isPunct "=") = true := fun w hw => by
    rw [Word.isPunct_of_semicolon (h w hw) "=" (by decide)]
    rfl
  rw [assignment, assignment]
  cases hafter : ws.dropWhile fun w => !w.isPunct "=" with
  | nil =>
    rw [List.dropWhile_append, hafter, List.dropWhile_eq_nil_iff.2 hends]
    rfl
  | cons equals after =>
    have hbefore : (ws ++ ends).takeWhile (fun w => !w.isPunct "=") =
        ws.takeWhile fun w => !w.isPunct "=" :=
      takeWhile_append_of_stop fun hnone => by
        rw [hnone] at hafter
        cases hafter
    have hbehind : (ws ++ ends).dropWhile (fun w => !w.isPunct "=") =
        equals :: (after ++ ends) := by
      rw [List.dropWhile_append, hafter]
      rfl
    rw [hbefore, hbehind]
    simp only [rest_append h]

theorem callOrAssignment_append : callOrAssignment (ws ++ ends) = callOrAssignment ws := by
  rw [callOrAssignment, callOrAssignment, punct_append h ws (by decide), call_append h,
    assignment_append h]
  cases punct "::" ws with
  | none => rfl
  | some ws =>
    refine ident_bind h ws fun name ws => ?_
    refine arguments_bind h ws fun args ws => ?_
    exact finish_append h ws _

theorem announced_append (word : String) : announced word (ws ++ ends) = announced word ws := by
  simp only [announced, condition_append h, elseBranch_append h, endOfBlock_append h,
    forEachIn_append h, finish_append h, rest_append h, selectFrom_append h, create_append h,
    delete_append h, relate_append h, unrelate_append h, send_append h, generate_append h,
    assignment_append h]

/-- Semicolons behind the words of a line do not change what it says. -/
theorem statement_append : statement (ws ++ ends) = statement ws := by
  cases ws with
  | nil =>
    cases hends : ends with
    | nil => rfl
    | cons w rest =>
      have hw := Word.isIdent_of_semicolon (h w (hends ▸ List.mem_cons_self))
      change statement (w :: rest) = callOrAssignment []
      rw [statement, hw, ← hends]
      exact callOrAssignment_append h []
  | cons w ws =>
    rw [List.cons_append, statement, statement, announced_append h, ← List.cons_append,
      callOrAssignment_append h]

end Terminators

end Grammar

def isTerminator (c : Char) : Bool := c == ';' || isBlank c

theorem isTerminator_iff {c : Char} : isTerminator c = true ↔ c = ';' ∨ isBlank c = true := by
  simp [isTerminator]

theorem Token.stopsAt_terminator {t : Token} (hk : t.kind ≠ .blank) (ht : t.isClosed = true)
    {c : Char} (hc : isTerminator c = true) : t.stopsAt c = true := by
  have hword : isWordChar c = false := by
    rcases isTerminator_iff.1 hc with rfl | hb
    · decide
    · exact isWordChar_of_isBlank hb
  have hdigit : c.isDigit = false := by
    rw [Bool.eq_false_iff]
    intro hd
    have hnot := of_isDigit (P := fun c => isTerminator c = false) (by decide) hd
    rw [hc] at hnot
    cases hnot
  have hpoint : c ≠ '.' := by
    rintro rfl
    exact absurd hc (by decide)
  have hdouble : ∀ m, doubleMarks.contains (m, c) = false := by
    have hmarks : ∀ p ∈ doubleMarks, isTerminator p.2 = false := by decide
    intro m
    rw [Bool.eq_false_iff]
    intro hm
    have hnot := hmarks _ (List.contains_iff_mem.1 hm)
    rw [hc] at hnot
    cases hnot
  obtain ⟨kind, chars⟩ := t
  cases kind with
  | blank => exact absurd rfl hk
  | ident => simp [stopsAt, hword]
  | number => simp [stopsAt, hdigit, hpoint]
  | string => exact ht
  | punct =>
    simp only [stopsAt, hdouble, hdigit]
    split
    · simp
    · rfl

/-- The only lexemes that start with a terminator are blanks and the semicolon. -/
theorem Lexeme.of_terminator {kind : TokenKind} {c : Char} {cs : List Char}
    (h : Lexeme kind (c :: cs)) (hk : kind ≠ .blank) (hc : isTerminator c = true) :
    kind = .punct ∧ c :: cs = [';'] := by
  have hnot : isBlank c = false → c = ';' := by
    intro hb
    rcases isTerminator_iff.1 hc with hsemicolon | hblank
    · exact hsemicolon
    · rw [hb] at hblank
      cases hblank
  generalize hs : c :: cs = s at h
  cases h with
  | blank => exact absurd rfl hk
  | ident hw =>
    obtain ⟨rfl, -⟩ := List.cons.inj hs
    rw [hnot (not_blank_of_wordStart hw)] at hw
    exact absurd hw (by decide)
  | whole hd =>
    obtain ⟨rfl, -⟩ := List.cons.inj hs
    have hdigit := hd c List.mem_cons_self
    rw [hnot (not_word_of_digit hdigit).1] at hdigit
    exact absurd hdigit (by decide)
  | decimal hd =>
    obtain ⟨rfl, -⟩ := List.cons.inj hs
    have hdigit := hd c List.mem_cons_self
    rw [hnot (not_word_of_digit hdigit).1] at hdigit
    exact absurd hdigit (by decide)
  | string hq =>
    obtain ⟨rfl, -⟩ := List.cons.inj hs
    rcases hq with rfl | rfl <;> exact absurd hc (by decide)
  | double hd =>
    obtain ⟨rfl, -⟩ := List.cons.inj hs
    rw [hnot (double_not_other hd).1] at hd
    have hmarks : ∀ p ∈ doubleMarks, p.1 ≠ ';' := by decide
    exact absurd rfl (hmarks _ (List.contains_iff_mem.1 hd))
  | single hb =>
    obtain ⟨rfl, -⟩ := List.cons.inj hs
    exact ⟨rfl, by rw [hnot hb]⟩

section Lines

variable {s rest : List Char}

theorem word_of_terminators (h : ∀ c ∈ s, isTerminator c = true) (gap : List Char) :
    ∀ w ∈ wordsAfter gap (tokens s), w.isPunct ";" = true := by
  intro w hw
  have htoken := List.mem_map_of_mem (f := Word.token) hw
  rw [map_token_wordsAfter] at htoken
  obtain ⟨ht, hk⟩ := List.mem_filter.1 htoken
  have hlexeme := lexeme_of_mem_tokens ht
  obtain ⟨c, cs, hchars⟩ := List.exists_cons_of_ne_nil hlexeme.ne_nil
  have hc : c ∈ s := by
    rw [← spell_tokens s]
    exact List.mem_flatMap.2 ⟨w.token, ht, by rw [hchars]; exact List.mem_cons_self⟩
  have hkind : w.token.kind ≠ .blank := by simpa [Token.isBlank] using hk
  rw [hchars] at hlexeme
  obtain ⟨hpunct, hsemicolon⟩ := hlexeme.of_terminator hkind (h c hc)
  rw [Word.isPunct, Token.isPunct, hpunct, hchars, hsemicolon]
  rfl

theorem last_token_of_trim (hs : trim s = s) : ∀ t ∈ (tokens s).getLast?, t.kind ≠ .blank := by
  intro t ht hk
  obtain ⟨hne, hall⟩ := blank_of_mem_tokens (List.mem_of_getLast? ht) hk
  have hlast := getLast?_of_tokens ht hne
  rw [List.getLast?_eq_some_getLast hne] at hlast
  have hblank := last_of_trim hs _ hlast
  rw [hall _ (List.getLast_mem hne)] at hblank
  cases hblank

/-- The words of a line, and then those of its terminators. -/
theorem words_append (hs : trim s = s) (hclosed : ∀ t ∈ (tokens s).getLast?, t.isClosed = true)
    (hrest : ∀ c ∈ rest, isTerminator c = true) :
    words (tokens (s ++ rest)) = words (tokens s) ++ words (tokens rest) := by
  have hkind := last_token_of_trim hs
  have hstops : Stops (tokens s) rest := fun t ht c hc =>
    t.stopsAt_terminator (hkind t ht) (hclosed t ht) (hrest c (List.mem_of_mem_head? hc))
  rw [tokens_append hstops]
  cases hlast : (tokens s).getLast? with
  | none => rw [List.getLast?_eq_none_iff.1 hlast]; rfl
  | some t => exact wordsAfter_append hlast (hkind t hlast)

theorem trimEnd_append_of_clean (h : ∀ c ∈ s.getLast?, isBlank c = false) (rest : List Char) :
    trimEnd (s ++ rest) = s ++ trimEnd rest := by
  rw [← List.head?_reverse] at h
  rw [trimEnd, List.reverse_append, dropWhile_append_of_stop fun _ => h, List.reverse_append,
    List.reverse_reverse, ← trimEnd]

/-- Terminators behind a line are terminators behind what is left of it without its blanks. -/
theorem trim_append (line : List Char) {tail : List Char} (h : ∀ c ∈ tail, isTerminator c = true) :
    ∃ rest, trim (line ++ tail) = trim line ++ rest ∧ ∀ c ∈ rest, isTerminator c = true := by
  by_cases hline : trimStart line = []
  · refine ⟨trim (line ++ tail), by rw [trim.eq_def line, hline]; rfl, fun c hc => ?_⟩
    have hend : trim (line ++ tail) <+: trimStart (line ++ tail) := trimEnd_prefix _
    have hmem := (List.dropWhile_suffix isBlank).subset (hend.subset hc)
    rcases List.mem_append.1 hmem with hc | hc
    · rw [← List.takeWhile_append_dropWhile (p := isBlank) (l := line), ← trimStart, hline,
        List.append_nil] at hc
      exact isTerminator_iff.2 (.inr (List.all_eq_true.1 List.all_takeWhile c hc))
    · exact h c hc
  · obtain ⟨blanks, hsplit, hblanks⟩ := trimEnd_takes (trimStart line)
    refine ⟨trimEnd (blanks ++ tail), ?_, fun c hc => ?_⟩
    · have hstart : trimStart (line ++ tail) = trimStart line ++ tail :=
        dropWhile_append_of_stop fun he => absurd he hline
      rw [trim, hstart, hsplit, List.append_assoc, ← trim, trimEnd_append_of_clean (last_trim line)]
    · have hend : trimEnd (blanks ++ tail) <+: blanks ++ tail := trimEnd_prefix _
      rcases List.mem_append.1 (hend.subset hc) with hc | hc
      · exact isTerminator_iff.2 (.inr (hblanks c hc))
      · exact h c hc

theorem prefix_of_append {mark : List Char} (hmark : ∀ c ∈ mark, isTerminator c = false)
    (hrest : ∀ c ∈ rest, isTerminator c = true) (h : mark <+: s ++ rest) : mark <+: s := by
  induction mark generalizing s with
  | nil => exact List.nil_prefix
  | cons m mark ih =>
    obtain ⟨hm, hmark⟩ := List.forall_mem_cons.1 hmark
    cases s with
    | nil =>
      have hmem : m ∈ rest := h.subset List.mem_cons_self
      rw [hrest m hmem] at hm
      cases hm
    | cons c s =>
      obtain ⟨hc, h⟩ := List.cons_prefix_cons.1 h
      exact List.cons_prefix_cons.2 ⟨hc, ih hmark h⟩

theorem not_comment_append (h : isCommentLine s = false)
    (hrest : ∀ c ∈ rest, isTerminator c = true) : isCommentLine (s ++ rest) = false := by
  have hmarks : ∀ m ∈ ["//", "#", "/*", "*/"], m.toList.any isTerminator = false := by decide
  rw [isCommentLine, List.any_eq_false] at h ⊢
  intro m hm hstart
  have hmark : ∀ c ∈ m.toList, isTerminator c = false := fun c hc =>
    Bool.eq_false_iff.2 (List.any_eq_false.1 (hmarks m hm) c hc)
  exact h m hm (startsWith_iff.2 (prefix_of_append hmark hrest (startsWith_iff.1 hstart)))

end Lines

def Statement.isRecognized : Statement → Bool
  | .unrecognized _ => false
  | _ => true

theorem parseLine_of_not_comment {line : String} (h : isCommentLine (trim line.toList) = false) :
    parseLine line = (Grammar.statement (words (tokens (trim line.toList)))).getD
      (.unrecognized (String.ofList (trim line.toList))) := by
  simp only [parseLine, h, Bool.false_eq_true, if_false]

/-- A line that is no comment and does not end in an open string, and the same line with semicolons
and blanks behind it: both are refused, or both are the same statement. -/
theorem parseLine_append_terminators (line tail : String)
    (hcomment : isCommentLine (trim line.toList) = false)
    (hclosed : ∀ t ∈ (tokens (trim line.toList)).getLast?, t.isClosed = true)
    (htail : ∀ c ∈ tail.toList, isTerminator c = true) :
    (parseLine (line ++ tail)).isRecognized = (parseLine line).isRecognized ∧
      ((parseLine line).isRecognized = true → parseLine (line ++ tail) = parseLine line) := by
  obtain ⟨rest, hline, hrest⟩ := trim_append line.toList htail
  rw [← String.toList_append] at hline
  have hwords := words_append (trim_trim line.toList) hclosed hrest
  have hstatement := Grammar.statement_append (word_of_terminators hrest [])
    (words (tokens (trim line.toList)))
  rw [← words, ← hwords, ← hline] at hstatement
  have hbare := not_comment_append hcomment hrest
  rw [← hline] at hbare
  rw [parseLine_of_not_comment hcomment, parseLine_of_not_comment hbare, hstatement]
  cases Grammar.statement (words (tokens (trim line.toList))) with
  | none =>
    simp only [Option.getD_none, Statement.isRecognized, Bool.false_eq_true, false_implies,
      and_self]
  | some s => simp only [Option.getD_some, implies_true, and_self]

/-- The semicolon inside the string stays, and those behind it go. -/
theorem parseLine_where_terminated :
    (parseLine "select any d from instances of D where selected.n == ';'").isRecognized = true ∧
      parseLine ("select any d from instances of D where selected.n == ';'" ++ " ; ;") =
        parseLine "select any d from instances of D where selected.n == ';'" := by
  have hread : (parseLine "select any d from instances of D where selected.n == ';'").isRecognized =
      true := by decide +kernel
  have htail : " ; ;".toList.all isTerminator = true := by decide
  exact ⟨hread, (parseLine_append_terminators _ _ (by decide +kernel) (by decide +kernel)
    (List.all_eq_true.1 htail)).2 hread⟩

end ExecutableUml.Action
