import ExecutableUml.Proofs.Action.Places.Follows

/-! Every form of a statement is read by places as the grammar reads it. So reading by places never
comes to a fault, whatever the line is, and the names and the expressions of the statement that it
finds stand in the line, without blanks at their ends. -/

namespace ExecutableUml.Action

open Text

def AssignTarget.texts : AssignTarget → List String
  | .variable name => [name]
  | .attribute object name => [object, name]

def Statement.texts : Statement → List String
  | .comment _ => []
  | .ifBegin c => [c]
  | .elseIf c => [c]
  | .elseBegin => []
  | .ifEnd => []
  | .forEach var collection => [var, collection]
  | .forEnd => []
  | .whileBegin c => [c]
  | .whileEnd => []
  | .breakLoop => []
  | .continueLoop => []
  | .returnValue value => value.toList
  | .selectInstances _ var classRef c => var :: classRef :: c.toList
  | .selectRelated _ var source hops c => var :: source :: (hops.flatMap Hop.texts ++ c.toList)
  | .createObject var classRef => [var, classRef]
  | .deleteObject var => [var]
  | .relate source target relId link => source :: target :: relId :: link.toList
  | .unrelate source target relId link => source :: target :: relId :: link.toList
  | .unrelateNavigated source from_ hop relId => source :: from_ :: relId :: hop.texts
  | .send message args target => message :: target :: args.flatMap Argument.texts
  | .createEvent var keyLetters label args target =>
    var :: label :: target :: (keyLetters.toList ++ args.flatMap Argument.texts)
  | .generate keyLetters event args target =>
    event :: target :: (keyLetters.toList ++ args.flatMap Argument.texts)
  | .generateInstance var => [var]
  | .bridgeCall entity operation args => entity :: operation :: args.flatMap Argument.texts
  | .functionCall name args => name :: args.flatMap Argument.texts
  | .methodCall object method args => object :: method :: args.flatMap Argument.texts
  | .assign target value => value :: target.texts
  | .unrecognized _ => []

namespace Places

open Grammar

/-- The same statement on both sides, with its texts cut out of the words. -/
abbrev Stated (ws : List Word) : Statement → Nat → Statement → Prop :=
  Ends fun s => CutAll ws s.texts

theorem assignTarget_eq (v : List Word) :
    Reader.assignTarget (v.map Word.token) = assignTarget v := by
  rcases v with _ | ⟨a, _ | ⟨b, _ | ⟨c, _ | ⟨d, v⟩⟩⟩⟩ <;> rfl

theorem assignTarget_cutAll {v : List Word} {target : AssignTarget}
    (h : assignTarget v = some target) : CutAll v target.texts := by
  unfold assignTarget at h
  split at h
  · split at h
    · cases h
      simp [AssignTarget.texts, cutFrom_of_mem]
    · cases h
  · split at h
    · cases h
      simp [AssignTarget.texts, cutFrom_of_mem]
    · cases h
  · cases h

section Forms

variable {line : Line} {ws rest : List Word} {place : Nat} (h : line.Spells ws)
  (ha : At ws place rest)
include h ha

theorem condition_stated {form : String → Statement} (hform : ∀ c, (form c).texts = [c]) :
    Follows (Stated ws) ((form <$> Reader.condition line) place) ((condition rest).map form) := by
  refine .map (condition_follows h ha) ?_
  rintro _ _ c ⟨rfl, hc⟩
  exact ⟨rfl, by simpa [hform] using hc⟩

theorem elseBranch_follows : Follows (Stated ws) (Reader.elseBranch line place) (elseBranch rest) := by
  rw [Reader.elseBranch, elseBranch]
  refine follows_keyword h ha (fun after hafter hat => ?_) fun hnone => ?_
  · rw [hafter]
    exact condition_stated h hat fun _ => rfl
  · rw [hnone]
    exact finish_follows h ha (cutAll_nil ws)

theorem endOfBlock_follows : Follows (Stated ws) (Reader.endOfBlock line place) (endOfBlock rest) := by
  rw [Reader.endOfBlock, endOfBlock]
  refine follows_keyword h ha (fun after hafter hat => ?_) fun hif => ?_
  · rw [hafter]
    exact finish_follows h hat (cutAll_nil ws)
  refine follows_keyword h ha (fun after hafter hat => ?_) fun hfor => ?_
  · rw [hif, hafter]
    exact finish_follows h hat (cutAll_nil ws)
  refine follows_keyword h ha (fun after hafter hat => ?_) fun hwhile => ?_
  · rw [hif, hfor, hafter]
    exact finish_follows h hat (cutAll_nil ws)
  · rw [hif, hfor, hwhile]
    exact .refused

theorem forEachIn_follows : Follows (Stated ws) (Reader.forEachIn line place) (forEachIn rest) := by
  rw [Reader.forEachIn, forEachIn]
  refine (demandKeyword_follows h ha "each").remain fun _ after hat => ?_
  refine (ident_follows h hat).reads fun var _ after hat hvar => ?_
  refine (demandKeyword_follows h hat "in").remain fun _ after hat => ?_
  refine (nonemptyRest_follows h hat).ends fun collection _ hcollection => ?_
  exact .found ⟨rfl, by simp [Statement.texts, hvar, hcollection]⟩

theorem cardinality_follows :
    Follows (Reads ws fun _ => True) (Reader.cardinality line place) (cardinality rest) := by
  rw [Reader.cardinality, cardinality]
  refine follows_keyword h ha (fun after hafter hat => ?_) fun hany => ?_
  · rw [hafter]
    exact .found ⟨rfl, hat, trivial⟩
  refine follows_keyword h ha (fun after hafter hat => ?_) fun hone => ?_
  · rw [hany, hafter]
    exact .found ⟨rfl, hat, trivial⟩
  refine follows_keyword h ha (fun after hafter hat => ?_) fun hmany => ?_
  · rw [hany, hone, hafter]
    exact .found ⟨rfl, hat, trivial⟩
  · rw [hany, hone, hmany]
    exact .refused

theorem selectFrom_follows : Follows (Stated ws) (Reader.selectFrom line place) (selectFrom rest) := by
  rw [Reader.selectFrom, selectFrom]
  refine (cardinality_follows h ha).reads fun card _ after hat _ => ?_
  refine (ident_follows h hat).reads fun var _ after hat hvar => ?_
  refine follows_keyword h hat (fun after hafter hat => ?_) fun hnone => ?_
  · dsimp only at hafter ⊢
    rw [hafter]
    refine (demandKeyword_follows h hat "instances").remain fun _ after hat => ?_
    refine (demandKeyword_follows h hat "of").remain fun _ after hat => ?_
    refine (ident_follows h hat).reads fun classRef _ after hat hclass => ?_
    refine (whereClause_follows h hat).ends fun c _ hc => ?_
    exact .found ⟨rfl, by simp [Statement.texts, hvar, hclass, hc]⟩
  · dsimp only at hnone ⊢
    rw [hnone]
    refine (demandKeyword_follows h hat "related").remain fun _ after hat => ?_
    refine (demandKeyword_follows h hat "by").remain fun _ after hat => ?_
    refine (ident_follows h hat).reads fun source _ after hat hsource => ?_
    refine (hops_follows h hat (h.length_lt hat)).reads fun steps _ after hat hsteps => ?_
    dsimp only
    split
    · exact .refused
    · refine (whereClause_follows h hat).ends fun c _ hc => ?_
      exact .found ⟨rfl, by simp [Statement.texts, hvar, hsource, hsteps, hc]⟩

theorem create_follows : Follows (Stated ws) (Reader.create line place) (create rest) := by
  rw [Reader.create, create]
  refine follows_keyword h ha (fun after hafter hat => ?_) fun hnone => ?_
  · rw [hafter]
    refine (demandKeyword_follows h hat "instance").remain fun _ after hat => ?_
    refine (ident_follows h hat).reads fun var _ after hat hvar => ?_
    refine (demandKeyword_follows h hat "of").remain fun _ after hat => ?_
    refine (ident_follows h hat).reads fun classRef _ after hat hclass => ?_
    exact finish_follows h hat (by simp [Statement.texts, hvar, hclass])
  · rw [hnone]
    refine (demandKeyword_follows h ha "event").remain fun _ after hat => ?_
    refine (demandKeyword_follows h hat "instance").remain fun _ after hat => ?_
    refine (ident_follows h hat).reads fun var _ after hat hvar => ?_
    refine (demandKeyword_follows h hat "of").remain fun _ after hat => ?_
    refine .bind (eventSpec_follows h hat) ?_
    rintro _ _ ⟨keyLetters, label, args, after⟩ ⟨rfl, hat, hspec⟩
    refine (demandKeyword_follows h hat "to").remain fun _ after hat => ?_
    refine (nonemptyRest_follows h hat).ends fun target _ htarget => ?_
    exact .found ⟨rfl, by simp_all [Statement.texts]⟩

theorem delete_follows : Follows (Stated ws) (Reader.delete line place) (delete rest) := by
  rw [Reader.delete, delete]
  refine (demandKeyword_follows h ha "object").remain fun _ after hat => ?_
  refine (demandKeyword_follows h hat "instance").remain fun _ after hat => ?_
  refine (ident_follows h hat).reads fun var _ after hat hvar => ?_
  exact finish_follows h hat (by simp [Statement.texts, hvar])

theorem relate_follows : Follows (Stated ws) (Reader.relate line place) (relate rest) := by
  rw [Reader.relate, relate]
  refine (ident_follows h ha).reads fun source _ after hat hsource => ?_
  refine (demandKeyword_follows h hat "to").remain fun _ after hat => ?_
  refine (ident_follows h hat).reads fun target _ after hat htarget => ?_
  refine .bind (across_follows h hat) ?_
  rintro _ _ ⟨relId, link⟩ ⟨rfl, hacross⟩
  exact .found ⟨rfl, by simp_all [Statement.texts]⟩

theorem unrelate_follows : Follows (Stated ws) (Reader.unrelate line place) (unrelate rest) := by
  rw [Reader.unrelate, unrelate]
  refine (ident_follows h ha).reads fun source _ after hat hsource => ?_
  refine (demandKeyword_follows h hat "from").remain fun _ after hat => ?_
  refine (ident_follows h hat).reads fun target _ after hat htarget => ?_
  refine follows_peek h hat (fun _ hafter => ?_) fun hnone => ?_
  · dsimp only at hafter ⊢
    rw [hafter]
    refine (hops_follows h hat (h.length_lt hat)).reads fun steps _ after hat hsteps => ?_
    -- a single step, and no link behind it
    rcases steps with _ | ⟨step, _ | ⟨second, steps⟩⟩
    · exact .refused
    · refine .bind (across_follows h hat) ?_
      rintro _ _ ⟨relId, _ | link⟩ ⟨rfl, hacross⟩
      · exact .found ⟨rfl, by simp_all [Statement.texts]⟩
      · exact .refused
    · exact .refused
  · dsimp only at hnone ⊢
    rw [hnone]
    refine .bind (across_follows h hat) ?_
    rintro _ _ ⟨relId, link⟩ ⟨rfl, hacross⟩
    exact .found ⟨rfl, by simp_all [Statement.texts]⟩

theorem send_follows : Follows (Stated ws) (Reader.send line place) (send rest) := by
  rw [Reader.send, send]
  refine (ident_follows h ha).reads fun message _ after hat hmessage => ?_
  refine (arguments_follows h hat).reads fun args _ after hat hargs => ?_
  refine (demandKeyword_follows h hat "to").remain fun _ after hat => ?_
  refine (nonemptyRest_follows h hat).ends fun target _ htarget => ?_
  exact .found ⟨rfl, by simp [Statement.texts, hmessage, hargs, htarget]⟩

/-- The token behind the next one. -/
theorem second_eq : line.toks[place + 1]?.map Prod.fst = rest.tail.head?.map Word.token := by
  cases rest with
  | nil =>
    have hlength := ha.length
    have hsize : line.toks.length = ws.length := h.size_eq
    rw [List.length_nil] at hlength
    rw [List.getElem?_eq_none (by omega)]
    rfl
  | cons w rest => exact h.token? ha.next

theorem generate_follows : Follows (Stated ws) (Reader.generate line place) (generate rest) := by
  rw [Reader.generate, Reader.position_bind, second_eq h ha, generate, Option.any_map]
  change Follows _ ((if rest.tail.head?.any (fun w =>
    w.isPunct ":" || w.isPunct "(" || w.isKeyword "to") then _ else _ : Reader Statement) place) _
  split
  · refine .bind (eventSpec_follows h ha) ?_
    rintro _ _ ⟨keyLetters, event, args, after⟩ ⟨rfl, hat, hspec⟩
    refine (demandKeyword_follows h hat "to").remain fun _ after hat => ?_
    refine (nonemptyRest_follows h hat).ends fun target _ htarget => ?_
    exact .found ⟨rfl, by simp_all [Statement.texts]⟩
  · refine (ident_follows h ha).reads fun var _ after hat hvar => ?_
    exact finish_follows h hat (by simp [Statement.texts, hvar])

/-- A call whose statement has the name in front of the arguments. -/
theorem namedCall_follows {form : String → List Argument → Statement}
    (hform : ∀ name args, CutFrom ws name → CutAll ws (args.flatMap Argument.texts) →
      CutAll ws (form name args).texts) :
    Follows (Stated ws)
      ((Reader.ident line >>= fun name => Reader.arguments line >>= fun args =>
        Reader.finish line (form name args)) place)
      (ident rest >>= fun name => arguments name.2 >>= fun args =>
        finish (form name.1 args.1) args.2) := by
  refine (ident_follows h ha).reads fun name _ after hat hname => ?_
  refine (arguments_follows h hat).reads fun args _ after hat hargs => ?_
  exact finish_follows h hat (hform _ _ hname hargs)

theorem call_follows : Follows (Stated ws) (Reader.call line place) (call rest) := by
  rw [Reader.call, call]
  refine (ident_follows h ha).reads fun head _ after hat hhead => ?_
  refine follows_punct h hat (fun after hafter hat => ?_) fun hcolons => ?_
  · dsimp only at hafter ⊢
    rw [hafter]
    exact namedCall_follows h hat fun _ _ hname hargs => by simp [Statement.texts, *]
  refine follows_punct h hat (fun after hafter hat => ?_) fun hdot => ?_
  · dsimp only at hcolons hafter ⊢
    rw [hcolons, hafter]
    exact namedCall_follows h hat fun _ _ hname hargs => by simp [Statement.texts, *]
  · dsimp only at hcolons hdot ⊢
    rw [hcolons, hdot, if_neg Bool.false_ne_true]
    dsimp only
    split
    · exact .refused
    · refine (arguments_follows h hat).reads fun args _ after hat hargs => ?_
      exact finish_follows h hat (by simp [Statement.texts, hhead, hargs])

theorem assignment_follows : Follows (Stated ws) (Reader.assignment line place) (assignment rest) := by
  have hcount : line.size - place = rest.length := by
    rw [h.size_eq, ← ha.length, Nat.add_sub_cancel_left]
  rw [Reader.assignment, Reader.position_bind, hcount, equalsFrom_eq h ha, Reader.found_bind,
    assignment]
  have hsplit := List.takeWhile_append_dropWhile (p := fun w : Word => !w.isPunct "=") (l := rest)
  cases hafter : rest.dropWhile fun w => !w.isPunct "=" with
  | nil => exact .refused
  | cons sign after =>
    -- the target is what stands in front of the sign
    rw [hafter] at hsplit
    rw [← hsplit] at ha
    obtain ⟨toks, htoks, htokens⟩ := tokensBetween_eq h ha
    dsimp only [List.isEmpty_cons]
    rw [if_neg Bool.false_ne_true]
    dsimp only
    rw [htoks, Reader.found_bind, htokens, assignTarget_eq]
    cases htarget : assignTarget (rest.takeWhile fun w => !w.isPunct "=") with
    | none => exact .refused
    | some target =>
      dsimp only
      rw [Reader.moveTo_bind, Option.bind_eq_bind, Option.bind_some]
      refine (nonemptyRest_follows h ha.behind.next).ends fun value _ hvalue => ?_
      have hcut : CutAll ws target.texts := fun text htext =>
        (assignTarget_cutAll htarget text htext).mono ha.isInfix
      exact .found ⟨rfl, by simp [Statement.texts, hvalue, hcut]⟩

theorem callOrAssignment_follows :
    Follows (Stated ws) (Reader.callOrAssignment line place) (callOrAssignment rest) := by
  rw [Reader.callOrAssignment, callOrAssignment]
  refine follows_punct h ha (fun after hafter hat => ?_) fun hnone => ?_
  · rw [hafter]
    exact namedCall_follows h hat fun _ _ hname hargs => by simp [Statement.texts, *]
  · rw [hnone]
    exact .orElse (call_follows h ha) (assignment_follows h ha)

theorem returnValue_follows :
    Follows (Stated ws)
      ((Reader.rest line >>= fun value =>
        pure (.returnValue (if value.isEmpty then none else some value))) place)
      (some (.returnValue (Grammar.rest rest))) := by
  rw [Reader.bind_of_ok (rest_eq h ha)]
  cases hrest : Grammar.rest rest with
  | none => exact .found ⟨rfl, cutAll_nil ws⟩
  | some text =>
    have hcut := rest_cutFrom ha hrest
    rw [Option.getD_some, if_neg (by rw [h.nonempty hcut]; exact Bool.false_ne_true)]
    exact .found ⟨rfl, by simpa [Statement.texts] using hcut⟩

/-- The words that announce a form are the same, and the forms are read alike. -/
theorem announced_follows (word : String) :
    (Reader.announced line word = none ∧ announced word rest = none) ∨
      ∃ form result, Reader.announced line word = some form ∧ announced word rest = some result ∧
        Follows (Stated ws) (form place) result := by
  unfold Reader.announced
  split
  case h_1 | h_2 | h_3 => exact .inr ⟨_, _, rfl, rfl, condition_stated h ha fun _ => rfl⟩
  case h_4 => exact .inr ⟨_, _, rfl, rfl, elseBranch_follows h ha⟩
  case h_5 => exact .inr ⟨_, _, rfl, rfl, endOfBlock_follows h ha⟩
  case h_6 => exact .inr ⟨_, _, rfl, rfl, forEachIn_follows h ha⟩
  case h_7 | h_8 => exact .inr ⟨_, _, rfl, rfl, finish_follows h ha (cutAll_nil ws)⟩
  case h_9 => exact .inr ⟨_, _, rfl, rfl, returnValue_follows h ha⟩
  case h_10 => exact .inr ⟨_, _, rfl, rfl, selectFrom_follows h ha⟩
  case h_11 => exact .inr ⟨_, _, rfl, rfl, create_follows h ha⟩
  case h_12 => exact .inr ⟨_, _, rfl, rfl, delete_follows h ha⟩
  case h_13 => exact .inr ⟨_, _, rfl, rfl, relate_follows h ha⟩
  case h_14 => exact .inr ⟨_, _, rfl, rfl, unrelate_follows h ha⟩
  case h_15 => exact .inr ⟨_, _, rfl, rfl, send_follows h ha⟩
  case h_16 => exact .inr ⟨_, _, rfl, rfl, generate_follows h ha⟩
  case h_17 => exact .inr ⟨_, _, rfl, rfl, assignment_follows h ha⟩
  case h_18 =>
    have hword : word ∉ leadingWords := by simp_all [leadingWords]
    exact .inl ⟨rfl, announced_eq_none hword rest⟩

theorem statement_follows : Follows (Stated ws) (Reader.statement line place) (statement rest) := by
  rw [Reader.statement, Reader.position_bind, Reader.bind_of_ok (peek_eq h ha)]
  cases rest with
  | nil => exact .refused
  | cons w rest =>
    rw [statement]
    dsimp only [List.head?_cons, Option.map_some]
    by_cases hident : w.isIdent = true
    · have hident' : w.token.isIdent = true := hident
      rw [if_pos hident, if_pos hident']
      obtain ⟨hreader, hgrammar⟩ | ⟨form, result, hreader, hgrammar, hform⟩ :=
        announced_follows h ha.next (asciiLower w.text)
      · rw [hgrammar, show Reader.announced line (asciiLower w.token.text) = none from hreader]
        exact callOrAssignment_follows h ha
      · rw [hgrammar, show Reader.announced line (asciiLower w.token.text) = some form from hreader]
        exact hform
    · have hident' : ¬ w.token.isIdent = true := hident
      rw [if_neg hident, if_neg hident']
      exact callOrAssignment_follows h ha

end Forms

/-- Reading by places comes to no fault on any line and gives the statement of the line, and each of
the names and expressions in it is a part of the trimmed line, without blanks at its ends. -/
theorem readLine_within_line (line : String) :
    readLine line = .ok (parseLine line) ∧
      ∀ text ∈ (parseLine line).texts, StandsIn (trim line.toList) text := by
  rw [readLine, parseLine]
  split
  · exact ⟨rfl, by simp [Statement.texts]⟩
  · have htrim := trim_trim line.toList
    have hfollows := statement_follows (spells_lineOf htrim) (At.start _)
    rw [ofChars_eq, ok_bind]
    generalize Reader.statement (lineOf (trim line.toList)) 0 = result at hfollows
    generalize statement (words (tokens (trim line.toList))) = found at hfollows
    cases hfollows with
    | refused => exact ⟨rfl, by simp [Statement.texts]⟩
    | found h =>
      obtain ⟨rfl, hcut⟩ := h
      exact ⟨rfl, fun text htext => standsIn_of_cutFrom htrim (hcut text htext)⟩

end Places

end ExecutableUml.Action
