import ExecutableUml.Proofs.Action.Clauses

/-! The canonical text of a statement is read back as that statement, for every form of the action
language. The one exception is a selection along a chain without steps: its text is no statement. -/

namespace ExecutableUml.Action

open Text Grammar

namespace Statement

/-- The words of the canonical text make up the statement. -/
def ReadsBack (s : Statement) : Prop :=
  Grammar.statement (wordsFrom [] s.canonical.toList) = some s

/-- Statements of names only. -/
theorem readsBack_phrase {s : Statement} (w : String) (xs : List String)
    (htext : s.canonical = phrase (w :: xs)) (hnames : ∀ y ∈ w :: xs, IsName y)
    (hw : asciiLower w = w) (h : announced w (nameWords [' '] xs) = some (some s)) :
    s.ReadsBack := by
  rw [ReadsBack, htext, wordsFrom_phrase_end hnames, nameWords, statement_announced hw h]

section Blocks

variable {c : String}

/-- Statements of one word and a condition. -/
theorem readsBack_guard (form : String → Statement) (w : String) (h : IsText c) (hname : IsName w)
    (htext : (form c).canonical = phrase [w] ++ " " ++ groupText c) (hw : asciiLower w = w)
    (hform : ∀ ws, announced w ws = some ((condition ws).map form)) : (form c).ReadsBack := by
  have hwords : wordsFrom [] (form c).canonical.toList =
      nameWords [] [w] ++ wordsFrom [' '] (groupText c).toList := by
    rw [htext, String.toList_append, String.toList_append, List.append_assoc]
    exact wordsFrom_phrase_space (by simpa using hname) (groupText_head c)
  rw [ReadsBack, hwords, statement_nameWords hw (hform _), nameWords, List.nil_append,
    condition_group h]
  rfl

theorem readsBack_forEach {var : String} (h : (forEach var c).Printable) :
    (forEach var c).ReadsBack := by
  obtain ⟨hv, hc⟩ := h
  have hwords : wordsFrom [] (forEach var c).canonical.toList =
      nameWords [] ["for", "each", var, "in"] ++ wordsFrom [' '] c.toList := by
    rw [canonical, String.toList_append, String.toList_append, List.append_assoc]
    exact wordsFrom_phrase_space (by simp [hv]) (head_of_trim hc.trimmed)
  rw [ReadsBack, hwords, statement_nameWords (by decide) rfl]
  simp [nameWords, forEachIn, rest_text hc]

theorem readsBack_returnValue {value : Option String} (h : (returnValue value).Printable) :
    (returnValue value).ReadsBack := by
  cases value with
  | none => exact readsBack_phrase "return" [] rfl (by simp) (by decide) rfl
  | some value =>
    have hv := h value rfl
    have hwords : wordsFrom [] (returnValue (some value)).canonical.toList =
        nameWords [] ["return"] ++ wordsFrom [' '] value.toList := by
      rw [canonical, String.toList_append, String.toList_append, List.append_assoc]
      exact wordsFrom_phrase_space (by simp) (head_of_trim hv.trimmed)
    rw [ReadsBack, hwords, statement_nameWords (by decide) rfl, nameWords, List.nil_append,
      rest_text hv]

end Blocks

section Instances

variable {card : Cardinality} {var classRef source : String} {c : Option String}

theorem readsBack_selectInstances (h : (selectInstances card var classRef c).Printable) :
    (selectInstances card var classRef c).ReadsBack := by
  obtain ⟨hv, hr, hc⟩ := h
  rw [ReadsBack, canonical, String.toList_append,
    wordsFrom_phrase (by simp [hv, hr]) (whereText_head c), wordsFrom_where,
    statement_nameWords (by decide) rfl]
  simp [nameWords, selectFrom, cardinality_word, whereClause_whereWords hc]

/-- Without a step the selection is no statement. -/
theorem statement_selectRelated {hops : List Hop}
    (h : (selectRelated card var source hops c).Printable) :
    Grammar.statement (wordsFrom [] (selectRelated card var source hops c).canonical.toList) =
      if hops.isEmpty then none else some (.selectRelated card var source hops c) := by
  obtain ⟨hv, hs, hh, hc⟩ := h
  have hhead : ∀ x ∈ ((hopsText hops).toList ++ (whereText c).toList).head?,
      isWordChar x = false := by
    cases hops with
    | nil => exact whereText_head c
    | cons s hops => exact hopsText_head s hops _
  have harrow : punct "->" (whereWords c) = none := by cases c <;> rfl
  have hsteps := hops_hopWords harrow hops
  rw [canonical, String.toList_append, String.toList_append, List.append_assoc,
    wordsFrom_phrase (by simp [hv, hs]) hhead, wordsFrom_hops hh, wordsFrom_where,
    statement_nameWords (by decide) rfl]
  simp +decide [nameWords, selectFrom, cardinality_word, hsteps, whereClause_whereWords hc]

theorem readsBack_createObject (h : (createObject var classRef).Printable) :
    (createObject var classRef).ReadsBack := by
  obtain ⟨hv, hc⟩ := h
  rw [ReadsBack, canonical, wordsFrom_phrase_end (by simp [hv, hc]), nameWords,
    statement_announced (by decide) rfl]
  simp [nameWords, create]

theorem readsBack_deleteObject (h : IsName var) : (deleteObject var).ReadsBack := by
  rw [ReadsBack, canonical, wordsFrom_phrase_end (by simp [h]), nameWords,
    statement_announced (by decide) rfl]
  simp [nameWords, delete]

end Instances

section Relationships

variable {source target start relId : String} {link : Option String} {hop : Hop}

theorem wordsFrom_link {w prep : String} (hw : IsName w) (hs : IsName source) (hp : IsName prep)
    (ht : IsName target) (hr : IsName relId) (hl : ∀ x ∈ link, IsName x) :
    wordsFrom [] (phrase ([w, source, prep, target, "across", relId] ++ linkWords link)).toList =
      nameWord [] w :: nameWord [' '] source :: nameWord [' '] prep :: nameWord [' '] target ::
        nameWords [' '] ("across" :: relId :: linkWords link) := by
  refine wordsFrom_phrase_end (x := w) ?_
  simp [hw, hs, hp, ht, hr]
  exact isName_linkWords hl

theorem readsBack_relate (h : (relate source target relId link).Printable) :
    (relate source target relId link).ReadsBack := by
  obtain ⟨hs, ht, hr, hl⟩ := h
  rw [ReadsBack, canonical, wordsFrom_link (by simp) hs (by simp) ht hr hl,
    statement_announced (by decide) rfl]
  simp [Grammar.relate, across_nameWords]

theorem readsBack_unrelate (h : (unrelate source target relId link).Printable) :
    (unrelate source target relId link).ReadsBack := by
  obtain ⟨hs, ht, hr, hl⟩ := h
  have harrow : punct "->" (nameWords [' '] ("across" :: relId :: linkWords link)) = none := rfl
  rw [ReadsBack, canonical, wordsFrom_link (by simp) hs (by simp) ht hr hl,
    statement_announced (by decide) rfl]
  simp only [Grammar.unrelate, ident_nameWord, Option.pure_def, Option.bind_eq_bind,
    Option.bind_some, keyword_nameWord, sameUpToAsciiCase_self, if_true, harrow, across_nameWords]

theorem readsBack_unrelateNavigated (h : (unrelateNavigated source start hop relId).Printable) :
    (unrelateNavigated source start hop relId).ReadsBack := by
  obtain ⟨hs, ht, hh, hr⟩ := h
  have hnames : ∀ y ∈ ["across", relId], IsName y := by simp [hr]
  have hspace := phrase_head [relId] (hnames "across" List.mem_cons_self) []
  rw [List.append_nil] at hspace
  have htext : (unrelateNavigated source start hop relId).canonical.toList =
      (phrase ["unrelate", source, "from", start]).toList ++
        ((hopsText [hop]).toList ++ ' ' :: (phrase ["across", relId]).toList) := by
    simp [canonical, hopsText, String.toList_append]
  have hacross := across_nameWords [' '] relId none
  simp only [linkWords, nameWords] at hacross
  have harrow : punct "->" (nameWords [' '] ["across", relId]) = none := rfl
  have hsteps := hops_hopWords harrow [hop]
  obtain ⟨tail, htail⟩ := punct_hopWords hop [] (nameWords [' '] ["across", relId])
  rw [ReadsBack, htext, wordsFrom_phrase (by simp [hs, ht]) (hopsText_head hop [] _),
    wordsFrom_hops (by simpa using hh), wordsFrom_space fun c hc => (hspace c hc).1,
    wordsFrom_phrase_end hnames, List.nil_append, statement_nameWords (by decide) rfl]
  generalize hopWords [hop] ++ nameWords [' '] ["across", relId] = ws at htail hsteps ⊢
  simp only [Grammar.unrelate, nameWords, List.cons_append, List.nil_append, ident_nameWord,
    Option.pure_def, Option.bind_eq_bind, Option.bind_some, keyword_nameWord,
    sameUpToAsciiCase_self, if_true, htail, hsteps, hacross]

end Relationships

section Events

variable {message var label target : String} {keyLetters : Option String} {args : List Argument}

theorem readsBack_send (h : (send message args target).Printable) :
    (send message args target).ReadsBack := by
  obtain ⟨hm, ha, ht⟩ := h
  have htext : (send message args target).canonical.toList = (phrase ["send", message]).toList ++
      ((argumentsText args).toList ++ (" to ".toList ++ target.toList)) := by
    simp only [canonical, String.toList_append, List.append_assoc]
  have hargs := arguments_canonical ha [] (" to ".toList ++ target.toList)
  rw [wordsFrom_to ht] at hargs
  rw [ReadsBack, htext, wordsFrom_phrase (by simp [hm]) (argumentsText_head args _),
    statement_nameWords (by decide) rfl]
  generalize wordsFrom [] ((argumentsText args).toList ++ _) = ws at hargs ⊢
  simp [nameWords, Grammar.send, hargs, rest_text ht]

theorem readsBack_createEvent (h : (createEvent var keyLetters label args target).Printable) :
    (createEvent var keyLetters label args target).ReadsBack := by
  obtain ⟨hv, hk, hl, ha, ht⟩ := h
  have htext : (createEvent var keyLetters label args target).canonical.toList =
      (phrase ["create", "event", "instance", var, "of"]).toList ++
        ' ' :: ((eventText keyLetters label args).toList ++ (" to ".toList ++ target.toList)) := by
    simp [canonical, String.toList_append]
  obtain ⟨ws, hws, hevent⟩ := eventSpec_signal hk hl ha ht [' ']
  rw [ReadsBack, htext, wordsFrom_phrase_space (by simp [hv]) (eventText_head hk hl _), hws,
    statement_nameWords (by decide) rfl]
  simp +decide [nameWords, create, hevent, rest_text ht]

/-- The word after the first one is the colon or the parenthesis of an event. -/
theorem readsBack_generate (h : (generate keyLetters label args target).Printable) :
    (generate keyLetters label args target).ReadsBack := by
  obtain ⟨hk, hl, ha, ht⟩ := h
  have htext : (generate keyLetters label args target).canonical.toList =
      (phrase ["generate"]).toList ++
        ' ' :: ((eventText keyLetters label args).toList ++ (" to ".toList ++ target.toList)) := by
    simp [canonical, String.toList_append]
  obtain ⟨ws, hws, hevent⟩ := eventSpec_signal hk hl ha ht [' ']
  have hsecond : (eventWords [' '] label keyLetters ++ markWord [] "(" :: ws).tail.head?.any
      (fun w => w.isPunct ":" || w.isPunct "(" || w.isKeyword "to") = true := by
    cases keyLetters <;> simp [eventWords]
  rw [ReadsBack, htext, wordsFrom_phrase_space (by simp) (eventText_head hk hl _), hws,
    statement_nameWords (by decide) rfl, nameWords, List.nil_append, Grammar.generate,
    if_pos hsecond, hevent]
  simp [rest_text ht]

theorem readsBack_generateInstance (h : IsName var) : (generateInstance var).ReadsBack := by
  rw [ReadsBack, canonical, wordsFrom_phrase_end (by simp [h]), nameWords,
    statement_announced (by decide) rfl]
  simp [nameWords, Grammar.generate]

end Events

section Calls

variable {first second : String} {args : List Argument}

/-- The words of a name and its arguments, at the end of a line. -/
theorem wordsFrom_call (h : IsName second) (gap : List Char) :
    wordsFrom gap (second ++ argumentsText args).toList =
      nameWord gap second :: wordsFrom [] (argumentsText args).toList := by
  have hparen := argumentsText_head args []
  rw [List.append_nil] at hparen
  rw [String.toList_append, wordsFrom_name h hparen]

theorem arguments_end (h : ∀ a ∈ args, a.Printable) :
    arguments (wordsFrom [] (argumentsText args).toList) = some (args, []) := by
  have hargs := arguments_canonical h [] []
  rwa [List.append_nil, wordsFrom_nil] at hargs

theorem readsBack_functionCall (h : (functionCall first args).Printable) :
    (functionCall first args).ReadsBack := by
  obtain ⟨hn, ha⟩ := h
  rw [ReadsBack, canonical, String.append_assoc, String.toList_append, wordsFrom_mark (by decide),
    wordsFrom_call hn]
  simp [Grammar.statement, callOrAssignment, arguments_end ha]

theorem readsBack_bridgeCall (h : (bridgeCall first second args).Printable) :
    (bridgeCall first second args).ReadsBack := by
  obtain ⟨hf, hlead, hs, ha⟩ := h
  rw [ReadsBack, canonical, String.append_assoc, String.append_assoc, String.toList_append,
    wordsFrom_name hf (by simp [String.toList_append]; decide), String.toList_append,
    wordsFrom_mark (by decide), wordsFrom_call hs, statement_nameWord, announced_eq_none hlead]
  simp [callOrAssignment, call, arguments_end ha]

theorem readsBack_methodCall (h : (methodCall first second args).Printable) :
    (methodCall first second args).ReadsBack := by
  obtain ⟨hf, hlead, hs, ha⟩ := h
  have hsecond := hs.head (argumentsText args).toList
  rw [← String.toList_append] at hsecond
  rw [ReadsBack, canonical, String.append_assoc, String.append_assoc, String.toList_append,
    wordsFrom_name hf (by simp [String.toList_append]; decide), String.toList_append,
    wordsFrom_mark_before (by decide) (fun c hc => Or.inr (hsecond c hc).2), wordsFrom_call hs,
    statement_nameWord, announced_eq_none hlead]
  simp [callOrAssignment, call, arguments_end ha]

end Calls

theorem readsBack_assign {target : AssignTarget} {value : String}
    (h : (assign target value).Printable) : (assign target value).ReadsBack := by
  obtain ⟨ht, hv⟩ := h
  have htext : (assign target value).canonical.toList = (phrase ["assign"]).toList ++
      ' ' :: (target.canonical.toList ++ ' ' :: ("=".toList ++ ' ' :: value.toList)) := by
    simp [canonical, String.toList_append]
  rw [ReadsBack, htext, wordsFrom_phrase_space (by simp) (target_head ht _),
    wordsFrom_target ht _ (by rintro _ ⟨⟩; decide), wordsFrom_space (by rintro _ ⟨⟩; decide),
    wordsFrom_mark_before (by decide) (by rintro _ ⟨⟩; exact Or.inl rfl),
    wordsFrom_space (head_of_trim hv.trimmed), statement_nameWords (by decide) rfl, nameWords,
    List.nil_append]
  simp [assignment_targetWords, rest_text hv]

theorem readsBack {s : Statement} (h : s.Printable) (hs : s.isStepless = false) : s.ReadsBack := by
  cases s with
  | comment | unrecognized => cases h
  | elseBegin => exact readsBack_phrase "else" [] rfl (by simp) (by decide) rfl
  | ifEnd => exact readsBack_phrase "end" ["if"] rfl (by simp) (by decide) rfl
  | forEnd => exact readsBack_phrase "end" ["for"] rfl (by simp) (by decide) rfl
  | whileEnd => exact readsBack_phrase "end" ["while"] rfl (by simp) (by decide) rfl
  | breakLoop => exact readsBack_phrase "break" [] rfl (by simp) (by decide) rfl
  | continueLoop => exact readsBack_phrase "continue" [] rfl (by simp) (by decide) rfl
  | ifBegin => exact readsBack_guard ifBegin "if" h (by simp) rfl (by decide) fun _ => rfl
  | elseIf => exact readsBack_guard elseIf "elif" h (by simp) rfl (by decide) fun _ => rfl
  | whileBegin => exact readsBack_guard whileBegin "while" h (by simp) rfl (by decide) fun _ => rfl
  | forEach => exact readsBack_forEach h
  | returnValue => exact readsBack_returnValue h
  | selectInstances => exact readsBack_selectInstances h
  | selectRelated card var source hops c =>
    cases hops with
    | nil => cases hs
    | cons s hops => exact statement_selectRelated h
  | createObject => exact readsBack_createObject h
  | deleteObject => exact readsBack_deleteObject h
  | relate => exact readsBack_relate h
  | unrelate => exact readsBack_unrelate h
  | unrelateNavigated => exact readsBack_unrelateNavigated h
  | send => exact readsBack_send h
  | createEvent => exact readsBack_createEvent h
  | generate => exact readsBack_generate h
  | generateInstance => exact readsBack_generateInstance h
  | bridgeCall => exact readsBack_bridgeCall h
  | functionCall => exact readsBack_functionCall h
  | methodCall => exact readsBack_methodCall h
  | assign => exact readsBack_assign h

end Statement

/-- Reading undoes printing for every printable statement but one kind: a selection without a step
is printed as a line that is no statement. -/
theorem parseLine_canonical (s : Statement) (h : s.Printable) :
    parseLine s.canonical = if s.isStepless then .unrecognized s.canonical else s := by
  rw [parseLine_eq_statement (Statement.canonical_startsLine h) (Statement.canonical_endsClean h)]
  cases hs : s.isStepless with
  | false => rw [Statement.readsBack h hs, if_neg Bool.false_ne_true, Option.getD_some]
  | true =>
    unfold Statement.isStepless at hs
    split at hs
    · rw [Statement.statement_selectRelated h]
      rfl
    · cases hs

def orderSignal : Statement :=
  .generate (some "MO") "Order" [⟨some "item", "find(a, [b])"⟩, ⟨none, "\"x; y\""⟩] "self.owner"

theorem parseLine_orderSignal :
    orderSignal.Printable ∧
      orderSignal.canonical = "generate MO:Order(item: find(a, [b]), \"x; y\") to self.owner" ∧
      parseLine orderSignal.canonical = orderSignal := by
  have h : orderSignal.Printable :=
    ⟨by decide +kernel, by decide +kernel, by decide +kernel, by decide +kernel⟩
  exact ⟨h, by decide +kernel, parseLine_canonical orderSignal h⟩

def steplessSelect : Statement := .selectRelated .any "v" "s" [] none

/-- The text of a selection without a step is not read back. -/
theorem parseLine_steplessSelect :
    steplessSelect.Printable ∧ steplessSelect.canonical = "select any v related by s" ∧
      parseLine steplessSelect.canonical = .unrecognized "select any v related by s" ∧
      parseLine steplessSelect.canonical ≠ steplessSelect := by
  refine ⟨⟨by decide +kernel, by decide +kernel, ?_, ?_⟩, by decide +kernel, by decide +kernel,
    by decide +kernel⟩
  · rintro h ⟨⟩
  · rintro t ⟨⟩

end ExecutableUml.Action
