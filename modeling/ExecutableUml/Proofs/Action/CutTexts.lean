import ExecutableUml.Action.Grammar
import ExecutableUml.Proofs.Action.ExpressionParts

/-! The expressions inside a statement are cut out of its line at the ends of tokens: each of them
is the text of neighbouring tokens of the line, from the first one that is not blank to the last. -/

namespace ExecutableUml.Action

open Text

section Words

variable {gap : List Char} {ts : List Token} {before mid after : List Word} {w : Word}

theorem wordsAfter_place (h : wordsAfter gap ts = before ++ w :: after) :
    ∃ pre post, ts = pre ++ w.token :: post ∧ after = wordsAfter [] post := by
  induction ts generalizing gap before with
  | nil => simp [wordsAfter] at h
  | cons t ts ih =>
    rw [wordsAfter] at h
    split at h
    · obtain ⟨pre, post, hts, hafter⟩ := ih h
      exact ⟨t :: pre, post, by rw [hts]; rfl, hafter⟩
    · cases before with
      | nil =>
        obtain ⟨rfl, rfl⟩ := List.cons.inj h
        exact ⟨[], ts, rfl, rfl⟩
      | cons v before =>
        obtain ⟨pre, post, hts, hafter⟩ := ih (List.cons.inj h).2
        exact ⟨t :: pre, post, by rw [hts]; rfl, hafter⟩

/-- The first words spell the tokens up to the last one of them. -/
theorem wordsAfter_spell (hne : mid ≠ []) (h : wordsAfter gap ts = mid ++ after) :
    ∃ range, range <+: ts ∧ mid.flatMap (fun v => v.gap ++ v.token.chars) = gap ++ spell range := by
  induction ts generalizing gap mid with
  | nil =>
    cases mid with
    | nil => exact absurd rfl hne
    | cons v mid => cases h
  | cons t ts ih =>
    rw [wordsAfter] at h
    split at h
    · obtain ⟨range, hrange, hmid⟩ := ih hne h
      refine ⟨t :: range, List.prefix_cons_inj t |>.2 hrange, ?_⟩
      rw [hmid, List.append_assoc]
      rfl
    · cases mid with
      | nil => exact absurd rfl hne
      | cons v mid =>
        obtain ⟨rfl, hrest⟩ := List.cons.inj h
        by_cases hmid : mid = []
        · subst hmid
          exact ⟨[t], List.prefix_append [t] ts, by simp [spell]⟩
        · obtain ⟨range, hrange, hspell⟩ := ih hmid hrest
          refine ⟨t :: range, List.prefix_cons_inj t |>.2 hrange, ?_⟩
          rw [List.flatMap_cons, hspell]
          simp [spell]

end Words

/-- The text of some neighbouring words, at least one. -/
def CutFrom (ws : List Word) (text : String) : Prop :=
  ∃ v, v ≠ [] ∧ v <:+: ws ∧ text = Word.join v

theorem CutFrom.mono {ws ws' : List Word} {text : String} (h : CutFrom ws text)
    (hws : ws <:+: ws') : CutFrom ws' text := by
  obtain ⟨v, hne, hv, htext⟩ := h
  exact ⟨v, hne, hv.trans hws, htext⟩

theorem CutFrom.tokens {ts : List Token} {text : String} (h : CutFrom (words ts) text) :
    ∃ range, range <:+: ts ∧ text.toList = spell range := by
  obtain ⟨v, hne, ⟨before, after, hws⟩, rfl⟩ := h
  obtain ⟨w, mid, rfl⟩ := List.exists_cons_of_ne_nil hne
  rw [List.append_assoc, List.cons_append] at hws
  obtain ⟨pre, post, hts, hmid⟩ := wordsAfter_place hws.symm
  rw [Word.join, String.toList_ofList]
  by_cases hnil : mid = []
  · subst hnil
    refine ⟨[w.token], ⟨pre, post, by rw [hts]; simp⟩, by simp [spell]⟩
  · obtain ⟨range, ⟨rest, hrange⟩, hspell⟩ := wordsAfter_spell hnil hmid.symm
    refine ⟨w.token :: range, ⟨pre, rest, by rw [hts, ← hrange]; simp⟩, ?_⟩
    rw [hspell]
    rfl

def Statement.expressions : Statement → List String
  | .ifBegin c => [c]
  | .elseIf c => [c]
  | .whileBegin c => [c]
  | .forEach _ collection => [collection]
  | .returnValue value => value.toList
  | .selectInstances _ _ _ c => c.toList
  | .selectRelated _ _ _ _ c => c.toList
  | .send _ args target => args.map Argument.value ++ [target]
  | .createEvent _ _ _ args target => args.map Argument.value ++ [target]
  | .generate _ _ args target => args.map Argument.value ++ [target]
  | .bridgeCall _ _ args => args.map Argument.value
  | .functionCall _ args => args.map Argument.value
  | .methodCall _ _ args => args.map Argument.value
  | .assign _ value => [value]
  | _ => []

namespace Grammar

section Steps

variable {ws after : List Word} {text : String}

theorem ident_suffix (h : ident ws = some (text, after)) : after <:+ ws := by
  unfold ident at h
  split at h
  · cases h
  · split at h
    · cases h
      exact List.suffix_cons _ _
    · cases h

theorem keyword_suffix {word : String} (h : keyword word ws = some after) : after <:+ ws := by
  unfold keyword at h
  split at h
  · cases h
  · split at h
    · cases h
      exact List.suffix_cons _ _
    · cases h

theorem punct_suffix {mark : String} (h : punct mark ws = some after) : after <:+ ws := by
  unfold punct at h
  split at h
  · cases h
  · split at h
    · cases h
      exact List.suffix_cons _ _
    · cases h

theorem cardinality_suffix {card : Cardinality} (h : cardinality ws = some (card, after)) :
    after <:+ ws := by
  unfold cardinality at h
  split at h
  · rename_i hkey
    cases h
    exact keyword_suffix hkey
  · rename_i hkey _
    cases h
    exact keyword_suffix hkey
  · rename_i hkey _ _
    cases h
    exact keyword_suffix hkey
  · cases h

theorem content_isPrefix (ws : List Word) : content ws <+: ws := by
  have h := List.dropWhile_suffix (l := ws.reverse) (fun w => w.isPunct ";")
  rw [← List.reverse_prefix, List.reverse_reverse] at h
  exact h

theorem rest_cut (h : rest ws = some text) : CutFrom ws text := by
  unfold rest at h
  split at h
  · cases h
  · rename_i hend
    cases h
    refine ⟨content ws, ?_, (content_isPrefix ws).isInfix, rfl⟩
    rintro hnil
    rw [atEnd, hnil] at hend
    exact hend rfl

theorem closeGroup_cons {depth : Nat} {w : Word} {inside : List Word}
    (h : closeGroup depth (w :: ws) = some (inside, after)) :
    (inside = [] ∧ after = ws) ∨
      ∃ d tail, closeGroup d ws = some (tail, after) ∧ inside = w :: tail := by
  rw [closeGroup.eq_def] at h
  simp only at h
  split at h
  · split at h
    · cases h
      exact .inl ⟨rfl, rfl⟩
    · obtain ⟨found, hfound, he⟩ := Option.map_eq_some_iff.1 h
      cases he
      exact .inr ⟨_, _, hfound, rfl⟩
  · obtain ⟨found, hfound, he⟩ := Option.map_eq_some_iff.1 h
    cases he
    exact .inr ⟨_, _, hfound, rfl⟩

theorem closeGroup_split {depth : Nat} {inside : List Word}
    (h : closeGroup depth ws = some (inside, after)) : ∃ close, ws = inside ++ close :: after := by
  induction ws generalizing depth inside with
  | nil => cases h
  | cons w ws ih =>
    rcases closeGroup_cons h with ⟨rfl, rfl⟩ | ⟨d, tail, hrest, rfl⟩
    · exact ⟨w, rfl⟩
    · obtain ⟨close, rfl⟩ := ih hrest
      exact ⟨close, rfl⟩

theorem condition_cut (h : condition ws = some text) : CutFrom ws text := by
  have hcontent := (content_isPrefix ws).isInfix
  unfold condition at h
  split at h
  · cases h
  · rename_i w tail hws
    rw [hws] at hcontent
    split at h
    · rename_i inside hgroup
      split at h
      · cases h
      · rename_i hne
        cases h
        split at hgroup
        · obtain ⟨close, rfl⟩ := closeGroup_split hgroup
          refine ⟨inside, mt List.isEmpty_iff.2 hne, ?_, rfl⟩
          have htail := (List.prefix_append inside [close]).isInfix
          exact (htail.trans (List.suffix_cons w _).isInfix).trans hcontent
        · cases hgroup
    · cases h
      exact ⟨w :: tail, List.cons_ne_nil _ _, hcontent, rfl⟩

theorem parted_splitCommas (depth : Nat) (ws : List Word) :
    Parted (·.isPunct ",") ws (splitCommas depth ws) := by
  induction ws generalizing depth with
  | nil => exact .whole []
  | cons w ws ih =>
    rw [splitCommas]
    split
    · rename_i hcomma
      simp only [Bool.and_eq_true] at hcomma
      rw [← List.nil_append (w :: ws)]
      exact .next hcomma.1 (ih depth)
    · simp only
      generalize (if (w.isPunct "(" || w.isPunct "[") = true then depth + 1
        else if (w.isPunct ")" || w.isPunct "]") = true then depth - 1 else depth) = after
      have hrest := ih after
      cases hparts : splitCommas after ws with
      | nil =>
        rw [hparts] at hrest
        cases hrest
      | cons part parts =>
        rw [hparts] at hrest
        exact hrest.cons w

theorem argument_cut {a : Argument} (h : argument ws = some a) : CutFrom ws a.value := by
  unfold argument at h
  split at h
  · cases h
  · rename_i w colon v vs
    split at h
    · cases h
      refine ⟨v :: vs, List.cons_ne_nil _ _, ?_, rfl⟩
      exact (List.suffix_append [w, colon] (v :: vs)).isInfix
    · cases h
      exact ⟨_, List.cons_ne_nil _ _, List.infix_refl _, rfl⟩
  · rename_i hnil _
    cases h
    exact ⟨ws, hnil, List.infix_refl ws, rfl⟩

theorem arguments_cut {tail : List Word} {args : List Argument} (htail : tail <:+ ws)
    (h : arguments tail = some (args, after)) :
    after <:+ ws ∧ ∀ e ∈ args.map Argument.value, CutFrom ws e := by
  obtain ⟨group, hopen, h⟩ := Option.bind_eq_some_iff.1 h
  obtain ⟨⟨inside, behind⟩, hgroup, h⟩ := Option.bind_eq_some_iff.1 h
  cases h
  have hws := (punct_suffix hopen).trans htail
  obtain ⟨close, rfl⟩ := closeGroup_split hgroup
  have hafter : after <:+ inside ++ close :: after :=
    (List.suffix_cons close after).trans (List.suffix_append inside _)
  refine ⟨hafter.trans hws, List.forall_mem_map.2 fun a ha => ?_⟩
  obtain ⟨part, hpart, hvalue⟩ := List.mem_filterMap.1 ha
  have hinside := (parted_splitCommas 0 inside).isInfix hpart
  have hgroup := (List.prefix_append inside (close :: after)).isInfix
  exact (argument_cut hvalue).mono ((hinside.trans hgroup).trans hws.isInfix)

theorem afterBracket_suffix (h : afterBracket ws = some after) : after <:+ ws := by
  induction ws with
  | nil => cases h
  | cons w ws ih =>
    rw [afterBracket] at h
    split at h
    · cases h
      exact List.suffix_cons w after
    · exact (ih h).trans (List.suffix_cons w ws)

theorem hop_suffix {s : Hop} (h : hop ws = some (s, after)) : after <:+ ws := by
  unfold hop at h
  split at h
  · rename_i arrow cls bracket rel tail
    split at h
    · obtain ⟨behind, hbehind, he⟩ := Option.map_eq_some_iff.1 h
      cases he
      exact (afterBracket_suffix hbehind).trans (List.suffix_append [arrow, cls, bracket, rel] tail)
    · cases h
  · cases h

theorem hops_suffix {steps : List Hop} (h : hops ws = some (steps, after)) : after <:+ ws := by
  fun_induction hops ws generalizing steps with
  | case1 ws hp =>
    cases h
    exact List.suffix_refl _
  | case2 ws _ hp hnone => cases h
  | case3 ws _ hp s behind hs ih =>
    obtain ⟨found, hfound, he⟩ := Option.map_eq_some_iff.1 h
    cases he
    exact (ih hfound).trans (hop_suffix hs)

theorem whereClause_cut {c : Option String} (h : whereClause ws = some c) :
    ∀ e ∈ c, CutFrom ws e := by
  unfold whereClause at h
  split at h
  · cases h
    rintro _ ⟨⟩
  · obtain ⟨tail, hkey, h⟩ := Option.bind_eq_some_iff.1 h
    obtain ⟨cond, hcond, h⟩ := Option.bind_eq_some_iff.1 h
    cases h
    rintro _ ⟨⟩
    exact (condition_cut hcond).mono (keyword_suffix hkey).isInfix

theorem eventSpec_cut {keyLetters : Option String} {label : String} {args : List Argument}
    (h : eventSpec ws = some (keyLetters, label, args, after)) :
    after <:+ ws ∧ ∀ e ∈ args.map Argument.value, CutFrom ws e := by
  obtain ⟨⟨first, tail⟩, hfirst, h⟩ := Option.bind_eq_some_iff.1 h
  have htail := ident_suffix hfirst
  simp only at h
  -- the label is the first name, or the one behind the colon
  split at h
  · simp only [Option.bind_eq_bind, Option.bind_some] at h
    split at h
    · cases h
      exact ⟨htail, List.forall_mem_nil _⟩
    · obtain ⟨found, hargs, h⟩ := Option.bind_eq_some_iff.1 h
      cases h
      exact arguments_cut htail hargs
  · rename_i behind hcolon
    obtain ⟨⟨letters, name, behind⟩, hname, h⟩ := Option.bind_eq_some_iff.1 h
    obtain ⟨found, hfound, he⟩ := Option.map_eq_some_iff.1 hname
    cases he
    have hbehind := ((ident_suffix hfound).trans (punct_suffix hcolon)).trans htail
    simp only at h
    split at h
    · cases h
      exact ⟨hbehind, List.forall_mem_nil _⟩
    · obtain ⟨found, hargs, h⟩ := Option.bind_eq_some_iff.1 h
      cases h
      exact arguments_cut hbehind hargs

end Steps

/-- Every expression in the statement, if there is one, is cut out of the words. -/
def Yields (ws : List Word) (found : Option Statement) : Prop :=
  ∀ s ∈ found, ∀ e ∈ s.expressions, CutFrom ws e

namespace Yields

variable {ws tail : List Word} {s : Statement}

theorem none : Yields ws none := by rintro _ ⟨⟩

theorem some (h : ∀ e ∈ s.expressions, CutFrom ws e) : Yields ws (some s) := by
  rintro _ ⟨⟩
  exact h

theorem bind {α : Type} {found : Option α} {f : α → Option Statement}
    (h : ∀ a, found = Option.some a → Yields ws (f a)) : Yields ws (found >>= f) := by
  intro s hs
  obtain ⟨a, ha, hf⟩ := Option.bind_eq_some_iff.1 hs
  exact h a ha s hf

theorem orElse {first second : Option Statement} (hfirst : Yields ws first)
    (hsecond : Yields ws second) : Yields ws (first <|> second) := by
  cases first with
  | none => exact hsecond
  | some s => exact hfirst

theorem finish (h : ∀ e ∈ s.expressions, CutFrom ws e) : Yields ws (Grammar.finish s tail) := by
  unfold Grammar.finish
  split
  · exact .some h
  · exact .none

section Steps

variable {f : String × List Word → Option Statement} (htail : tail <:+ ws)

include htail

theorem ident (h : ∀ x after, after <:+ ws → Yields ws (f (x, after))) :
    Yields ws (Grammar.ident tail >>= f) :=
  bind fun _ ha => h _ _ ((ident_suffix ha).trans htail)

theorem keyword {f : List Word → Option Statement} {word : String}
    (h : ∀ after, after <:+ ws → Yields ws (f after)) :
    Yields ws (Grammar.keyword word tail >>= f) :=
  bind fun _ ha => h _ ((keyword_suffix ha).trans htail)

theorem rest {f : String → Option Statement} (h : ∀ e, CutFrom ws e → Yields ws (f e)) :
    Yields ws (Grammar.rest tail >>= f) :=
  bind fun _ ha => h _ ((rest_cut ha).mono htail.isInfix)

theorem whereClause {f : Option String → Option Statement}
    (h : ∀ c : Option String, (∀ e ∈ c.toList, CutFrom ws e) → Yields ws (f c)) :
    Yields ws (Grammar.whereClause tail >>= f) :=
  bind fun _ ha => h _ fun e he =>
    (whereClause_cut ha e (Option.mem_toList.1 he)).mono htail.isInfix

theorem condition {form : String → Statement} (h : ∀ c, (form c).expressions = [c]) :
    Yields ws ((Grammar.condition tail).map form) := by
  intro s hs
  obtain ⟨c, hc, rfl⟩ := Option.map_eq_some_iff.1 hs
  rw [h]
  exact List.forall_mem_singleton.2 ((condition_cut hc).mono htail.isInfix)

theorem arguments {f : List Argument × List Word → Option Statement}
    (h : ∀ args after, after <:+ ws → (∀ e ∈ args.map Argument.value, CutFrom ws e) →
      Yields ws (f (args, after))) :
    Yields ws (Grammar.arguments tail >>= f) := by
  refine bind fun a ha => ?_
  obtain ⟨hafter, hargs⟩ := arguments_cut htail ha
  exact h a.1 a.2 hafter hargs

theorem eventSpec {f : Option String × String × List Argument × List Word → Option Statement}
    (h : ∀ keyLetters label args after, after <:+ ws →
      (∀ e ∈ args.map Argument.value, CutFrom ws e) →
        Yields ws (f (keyLetters, label, args, after))) :
    Yields ws (Grammar.eventSpec tail >>= f) := by
  refine bind fun a ha => ?_
  obtain ⟨hafter, hargs⟩ := eventSpec_cut ha
  exact h a.1 a.2.1 a.2.2.1 a.2.2.2 (hafter.trans htail)
    fun e he => (hargs e he).mono htail.isInfix

end Steps

end Yields

section Statements

variable {ws tail : List Word}

theorem endOfBlock_yields : Yields ws (endOfBlock tail) := by
  unfold endOfBlock
  split
  · exact .finish (List.forall_mem_nil _)
  · exact .finish (List.forall_mem_nil _)
  · exact .finish (List.forall_mem_nil _)
  · exact .none

theorem delete_yields : Yields ws (delete tail) := by
  refine .bind fun _ _ => .bind fun _ _ => .bind fun _ _ => ?_
  exact .finish (List.forall_mem_nil _)

theorem relate_yields : Yields ws (relate tail) := by
  refine .bind fun _ _ => .bind fun _ _ => .bind fun _ _ => .bind fun _ _ => ?_
  exact .some (List.forall_mem_nil _)

theorem unrelate_yields : Yields ws (unrelate tail) := by
  refine .bind fun _ _ => .bind fun _ _ => .bind fun _ _ => ?_
  simp only
  split
  · exact .bind fun _ _ => .some (List.forall_mem_nil _)
  · refine .bind fun _ _ => ?_
    split
    · refine .bind fun _ _ => ?_
      split
      · exact .some (List.forall_mem_nil _)
      · exact .none
    · exact .none

variable (htail : tail <:+ ws)

include htail

theorem forEachIn_yields : Yields ws (forEachIn tail) := by
  refine .keyword htail fun tail htail => ?_
  refine .ident htail fun var tail htail => ?_
  refine .keyword htail fun tail htail => ?_
  refine .rest htail fun collection h => ?_
  exact .some (List.forall_mem_singleton.2 h)

theorem send_yields : Yields ws (send tail) := by
  refine .ident htail fun message tail htail => ?_
  refine .arguments htail fun args tail htail hargs => ?_
  refine .keyword htail fun tail htail => ?_
  refine .rest htail fun target h => ?_
  exact .some (List.forall_mem_append.2 ⟨hargs, List.forall_mem_singleton.2 h⟩)

theorem generate_yields : Yields ws (generate tail) := by
  unfold generate
  split
  · refine .eventSpec htail fun keyLetters event args tail htail hargs => ?_
    refine .keyword htail fun tail htail => ?_
    refine .rest htail fun target h => ?_
    exact .some (List.forall_mem_append.2 ⟨hargs, List.forall_mem_singleton.2 h⟩)
  · refine .ident htail fun var tail _ => ?_
    exact .finish (List.forall_mem_nil _)

theorem create_yields : Yields ws (create tail) := by
  unfold create
  split
  · rename_i object hobject
    have htail := (keyword_suffix hobject).trans htail
    refine .keyword htail fun tail htail => ?_
    refine .ident htail fun var tail htail => ?_
    refine .keyword htail fun tail htail => ?_
    refine .ident htail fun classRef tail _ => ?_
    exact .finish (List.forall_mem_nil _)
  · refine .keyword htail fun tail htail => ?_
    refine .keyword htail fun tail htail => ?_
    refine .ident htail fun var tail htail => ?_
    refine .keyword htail fun tail htail => ?_
    refine .eventSpec htail fun keyLetters label args tail htail hargs => ?_
    refine .keyword htail fun tail htail => ?_
    refine .rest htail fun target h => ?_
    exact .some (List.forall_mem_append.2 ⟨hargs, List.forall_mem_singleton.2 h⟩)

theorem selectFrom_yields : Yields ws (selectFrom tail) := by
  refine .bind fun a ha => ?_
  have htail := (cardinality_suffix ha).trans htail
  refine .ident htail fun var tail htail => ?_
  simp only
  split
  · rename_i source hfrom
    have htail := (keyword_suffix hfrom).trans htail
    refine .keyword htail fun tail htail => ?_
    refine .keyword htail fun tail htail => ?_
    refine .ident htail fun classRef tail htail => ?_
    exact .whereClause htail fun c hc => .some hc
  · refine .keyword htail fun tail htail => ?_
    refine .keyword htail fun tail htail => ?_
    refine .ident htail fun source tail htail => ?_
    refine .bind fun a ha => ?_
    have htail := (hops_suffix ha).trans htail
    simp only
    split
    · exact .none
    · exact .whereClause htail fun c hc => .some hc

theorem call_yields : Yields ws (call tail) := by
  refine .ident htail fun head tail htail => ?_
  simp only
  split
  · rename_i behind _ hcolons
    have htail := (punct_suffix hcolons).trans htail
    refine .ident htail fun operation tail htail => ?_
    refine .arguments htail fun args tail _ hargs => ?_
    exact .finish hargs
  · rename_i behind _ hdot
    have htail := (punct_suffix hdot).trans htail
    refine .ident htail fun method tail htail => ?_
    refine .arguments htail fun args tail _ hargs => ?_
    exact .finish hargs
  · split
    · exact .none
    · refine .arguments htail fun args tail _ hargs => ?_
      exact .finish hargs

theorem assignment_yields : Yields ws (assignment tail) := by
  unfold assignment
  split
  · exact .none
  · rename_i equals after hafter
    have hdrop := List.dropWhile_suffix (l := tail) fun w => !w.isPunct "="
    rw [hafter] at hdrop
    have hafter := ((List.suffix_cons equals after).trans hdrop).trans htail
    refine .bind fun target _ => ?_
    refine .rest hafter fun value h => ?_
    exact .some (List.forall_mem_singleton.2 h)

theorem callOrAssignment_yields : Yields ws (callOrAssignment tail) := by
  unfold callOrAssignment
  split
  · rename_i behind hcolons
    have htail := (punct_suffix hcolons).trans htail
    refine .ident htail fun name tail htail => ?_
    refine .arguments htail fun args tail _ hargs => ?_
    exact .finish hargs
  · exact (call_yields htail).orElse (assignment_yields htail)

theorem elseBranch_yields : Yields ws (elseBranch tail) := by
  unfold elseBranch
  split
  · rename_i hkey
    exact .condition ((keyword_suffix hkey).trans htail) fun _ => rfl
  · exact .finish (List.forall_mem_nil _)

theorem announced_yields {word : String} {found : Option Statement}
    (h : announced word tail = some found) : Yields ws found := by
  unfold announced at h
  split at h
  all_goals cases h
  · exact .condition htail fun _ => rfl
  · exact .condition htail fun _ => rfl
  · exact .condition htail fun _ => rfl
  · exact elseBranch_yields htail
  · exact endOfBlock_yields
  · exact forEachIn_yields htail
  · exact .finish (List.forall_mem_nil _)
  · exact .finish (List.forall_mem_nil _)
  · refine .some fun e he => ?_
    exact (rest_cut (Option.mem_toList.1 he)).mono htail.isInfix
  · exact selectFrom_yields htail
  · exact create_yields htail
  · exact delete_yields
  · exact relate_yields
  · exact unrelate_yields
  · exact send_yields htail
  · exact generate_yields htail
  · exact assignment_yields htail

end Statements

theorem statement_yields (ws : List Word) : Yields ws (statement ws) := by
  cases ws with
  | nil => exact .none
  | cons w ws =>
    rw [statement]
    split
    · rename_i hfound
      split at hfound
      · exact announced_yields (List.suffix_cons w ws) hfound
      · cases hfound
    · exact callOrAssignment_yields (List.suffix_refl _)

end Grammar

/-- Every expression in a statement is the text of neighbouring tokens of its line. -/
theorem expressions_cut {line e : String} (h : e ∈ (parseLine line).expressions) :
    ∃ range, range <:+: tokens (trim line.toList) ∧ e.toList = spell range := by
  unfold parseLine at h
  simp only at h
  split at h
  · cases h
  · cases hs : Grammar.statement (words (tokens (trim line.toList))) with
    | none =>
      rw [hs] at h
      cases h
    | some s =>
      rw [hs] at h
      exact (Grammar.statement_yields _ s hs e h).tokens

end ExecutableUml.Action
