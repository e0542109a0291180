import ExecutableUml.Proofs.Document.ClassReferences
import ExecutableUml.Proofs.Document.Handles
import ExecutableUml.Proofs.Python.AssociationMethods
import Mathlib.Logic.Function.Basic

/-! The ends of a link. The text of the module of an association class is read as it runs: its
methods, the attributes that they set by name, and what the getters return. Of a new link the
getters return the two instances that it joins just when the ends are of different classes, and no
getter that is named after a class takes the place of a method. -/

namespace ExecutableUml

namespace Python

open Text Document

structure Assignment where
  name : String
  value : String
deriving DecidableEq, Repr

/-- What a method without parameters returns: an attribute, or what another method returns. -/
inductive Answer where
  | stored (name : String)
  | method (name : String)
deriving DecidableEq, Repr

section Reader

variable (named : String → Option Char)

/-- The text of the literal behind the start of a line, and what follows it. -/
def literalBehind (start line : String) : Option (String × List Char) := do
  let rest ← stripStart start.toList line.toList
  let read ← readLiteral named rest
  return (String.ofList read.1, read.2)

def assignment? (start line : String) : Option Assignment := do
  let read ← literalBehind named start line
  let rest ← stripStart [',', ' '] read.2
  let cut ← cutAtChar ')' rest
  return ⟨read.1, String.ofList cut.1⟩

def assignments (start method : String) (lines : List String) : List Assignment :=
  ((bodyOf method lines).getD []).filterMap (assignment? named start)

def answer? (line : String) : Option Answer :=
  match literalBehind named "        return self.get_attr(" line with
  | some (name, rest) => if rest = [')'] then some (.stored name) else none
  | none =>
    ((stripStart "        return self.".toList line.toList).bind (stripEnd "()".toList)).map
      fun name => .method (String.ofList name)

variable {α : Type}

def assign (value : String → α) (attributes : String → α) (a : Assignment) : String → α :=
  Function.update attributes a.name (value a.value)

/-- The attributes of a link that is made between two instances, without others given. `value` has
the values of expressions, and `before` what is there at first. -/
def linkedAttributes (lines : List String) (value before : String → α) : String → α :=
  (assignments named "        self.set_attr(" "__init__" lines ++
    assignments named "        assoc.set_attr(" "create_link" lines).foldl (assign value) before

def answerOf (method : String) (lines : List String) : Option Answer :=
  match bodyOf method lines with
  | some [line] => answer? named line
  | _ => none

/-- The method returns the value. Attributes are read by an inherited method, which the class must
not define itself. -/
inductive Returns (lines : List String) (attributes : String → α) : String → α → Prop where
  | read {method name : String} (answer : answerOf named method lines = some (.stored name))
    (inherited : bodyOf "get_attr" lines = none) : Returns lines attributes method (attributes name)
  | call {method other : String} {v : α}
    (answer : answerOf named method lines = some (.method other))
    (result : Returns lines attributes other v) : Returns lines attributes method v

def unindented (line : String) : List Char := line.toList.dropWhile (· == ' ')

/-- A line that starts with a quote is one literal to its end. -/
def HoldsOnlyText (line : String) : Prop :=
  (unindented line).head? = some '"' → ∃ text, readLiteral named (unindented line) = some (text, [])

/-- The getters of a new link return the two instances that it was made for. -/
def ReturnsEnds (lines : List String) (value before : String → α) : Prop :=
  Returns named lines (linkedAttributes named lines value before) "get_from" (value "from_inst") ∧
  Returns named lines (linkedAttributes named lines value before) "get_to" (value "to_inst")

end Reader

section Reading

variable {named : String → Option Char}

theorem literalBehind_eq_some {l rest : List Char} (t : String) (hquote : rest.head? ≠ some '"')
    (hrest : ∀ c ∈ rest, 0x20 ≤ c.toNat) :
    literalBehind named (String.ofList l)
      (String.ofList l ++ stringLiteral t ++ String.ofList rest) = some (t, rest) := by
  have hstart : stripStart l (l ++ ((stringLiteral t).toList ++ rest)) =
      some ((stringLiteral t).toList ++ rest) := stripStart_eq_some_iff.2 rfl
  rw [literalBehind, String.toList_append, String.toList_append, @String.toList_ofList l,
    @String.toList_ofList rest, List.append_assoc, hstart]
  simp [readLiteral_stringLiteral t hquote hrest]

theorem literalBehind_of_differ {start l : List Char}
    (h : ((start.zip l).any fun p => p.1 != p.2) = true) (rest : String) :
    literalBehind named (String.ofList start) (String.ofList l ++ rest) = none := by
  rw [literalBehind, String.toList_append, @String.toList_ofList start, @String.toList_ofList l,
    stripStart_append_of_differ h]
  rfl

theorem assignment?_eq_some {l value : List Char} (t : String) (hvalue : ')' ∉ value)
    (hplain : (value.all fun c => decide (0x20 ≤ c.toNat)) = true) :
    assignment? named (String.ofList l)
      (String.ofList l ++ stringLiteral t ++ String.ofList (',' :: ' ' :: (value ++ [')']))) =
      some ⟨t, String.ofList value⟩ := by
  have hrest : ∀ c ∈ ',' :: ' ' :: (value ++ [')']), 0x20 ≤ c.toNat := by
    simp only [List.forall_mem_cons, List.forall_mem_append]
    refine ⟨by decide, by decide, fun c hc => ?_, by decide, by simp⟩
    exact of_decide_eq_true (List.all_eq_true.1 hplain c hc)
  rw [assignment?, literalBehind_eq_some t (by simp) hrest]
  simp [stripStart, cutAtChar_append hvalue]

theorem assignment?_of_differ {start l : List Char}
    (h : ((start.zip l).any fun p => p.1 != p.2) = true) (rest : String) :
    assignment? named (String.ofList start) (String.ofList l ++ rest) = none := by
  rw [assignment?, literalBehind_of_differ h]
  rfl

theorem assignment?_ofList_of_differ {start l : List Char}
    (h : ((start.zip l).any fun p => p.1 != p.2) = true) :
    assignment? named (String.ofList start) (String.ofList l) = none := by
  have hline : assignment? named (String.ofList start) (String.ofList l ++ "") = none :=
    assignment?_of_differ h ""
  rwa [String.append_empty] at hline

theorem assignments_initializerBody (m : Model) (a : AssociationClass) :
    ∃ own, (initializerBody m a).filterMap (assignment? named "        self.set_attr(") =
      ⟨endAttribute m a.source, "None"⟩ :: ⟨endAttribute m a.target, "None"⟩ :: own := by
  have hsuper : assignment? named "        self.set_attr("
      "        super().__init__(rt, id)" = none := assignment?_ofList_of_differ (by decide)
  have hset : ∀ t, assignment? named "        self.set_attr("
      ("        self.set_attr(" ++ stringLiteral t ++ ", None)") = some ⟨t, "None"⟩ := fun t =>
    @assignment?_eq_some named _ ['N', 'o', 'n', 'e'] t (by decide) (by decide)
  rw [initializerBody, List.append_assoc, List.cons_append, List.cons_append, List.cons_append,
    List.filterMap_cons_none hsuper, List.filterMap_cons_some (hset _),
    List.filterMap_cons_some (hset _)]
  exact ⟨_, rfl⟩

theorem assignments_createLinkBody (m : Model) (a : AssociationClass) :
    (createLinkBody m a).filterMap (assignment? named "        assoc.set_attr(") =
      [⟨endAttribute m a.source, "from_inst"⟩, ⟨endAttribute m a.target, "to_inst"⟩] := by
  have hdoc : ∀ text, assignment? named "        assoc.set_attr("
      ("        " ++ docstring text) = none := by
    intro text
    have hline : "        " ++ docstring text = String.ofList
        [' ', ' ', ' ', ' ', ' ', ' ', ' ', ' ', '"'] ++ ("\"\"" ++ text ++ "\"\"\"") := by
      rw [← String.toList_inj]
      simp [docstring]
    rw [hline]
    exact assignment?_of_differ (by decide) _
  have hsource : ∀ t, assignment? named "        assoc.set_attr("
      ("        assoc.set_attr(" ++ stringLiteral t ++ ", from_inst)") = some ⟨t, "from_inst"⟩ :=
    fun t => @assignment?_eq_some named _ ['f', 'r', 'o', 'm', '_', 'i', 'n', 's', 't'] t
      (by decide) (by decide)
  have htarget : ∀ t, assignment? named "        assoc.set_attr("
      ("        assoc.set_attr(" ++ stringLiteral t ++ ", to_inst)") = some ⟨t, "to_inst"⟩ :=
    fun t => @assignment?_eq_some named _ ['t', 'o', '_', 'i', 'n', 's', 't'] t
      (by decide) (by decide)
  rw [createLinkBody, List.filterMap_cons_none (hdoc _),
    List.filterMap_cons_none (assignment?_ofList_of_differ (by decide)),
    List.filterMap_cons_none (assignment?_ofList_of_differ (by decide)),
    List.filterMap_cons_none (assignment?_ofList_of_differ (by decide)),
    List.filterMap_cons_some (hsource _), List.filterMap_cons_some (htarget _),
    List.filterMap_cons_none (assignment?_ofList_of_differ (by decide)),
    List.filterMap_cons_none (assignment?_ofList_of_differ (by decide)),
    @String.append_assoc _ (stringLiteral a.relId),
    List.filterMap_cons_none (assignment?_of_differ (by decide) _),
    List.filterMap_cons_none (assignment?_ofList_of_differ (by decide)), List.filterMap_nil]

theorem answer?_read (t : String) : answer? named (readLine t) = some (.stored t) := by
  have hread : literalBehind named "        return self.get_attr(" (readLine t) = some (t, [')']) :=
    literalBehind_eq_some t (by decide) (List.forall_mem_singleton.2 (by decide))
  rw [answer?, hread]
  rfl

theorem toList_returnMark : "        return self.".toList =
    [' ', ' ', ' ', ' ', ' ', ' ', ' ', ' ', 'r', 'e', 't', 'u', 'r', 'n', ' ', 's', 'e', 'l', 'f',
      '.'] :=
  rfl

theorem answer?_call {l name : List Char}
    (hl : l = [' ', ' ', ' ', ' ', ' ', ' ', ' ', ' ', 'r', 'e', 't', 'u', 'r', 'n', ' ', 's', 'e',
      'l', 'f', '.'] ++ (name ++ ['(', ')']))
    (hread : literalBehind named "        return self.get_attr(" (String.ofList l) = none) :
    answer? named (String.ofList l) = some (.method (String.ofList name)) := by
  have hend : stripEnd "()".toList (name ++ ['(', ')']) = some name := by
    simp [stripEnd, stripStart]
  rw [answer?, hread, toList_returnMark, @String.toList_ofList l, stripStart_eq_some_iff.2 hl]
  exact congrArg (Option.map fun name => Answer.method (String.ofList name)) hend

theorem answer?_source :
    answer? named "        return self.get_from()" = some (.method "get_from") := by
  refine answer?_call ?_ ?_
  · rfl
  · have hline : literalBehind named "        return self.get_attr("
        ("        return self.get_from()" ++ "") = none := literalBehind_of_differ (by decide) ""
    rwa [String.append_empty] at hline

theorem answer?_target :
    answer? named "        return self.get_to()" = some (.method "get_to") := by
  refine answer?_call ?_ ?_
  · rfl
  · have hline : literalBehind named "        return self.get_attr("
        ("        return self.get_to()" ++ "") = none := literalBehind_of_differ (by decide) ""
    rwa [String.append_empty] at hline

end Reading

section Results

variable {named : String → Option Char} {lines : List String} {α : Type} {attributes : String → α}
  {method : String} {v w : α}

theorem Returns.unique (hv : Returns named lines attributes method v)
    (hw : Returns named lines attributes method w) : v = w := by
  induction hv with
  | read hanswer =>
    cases hw with
    | read hanswer' =>
      cases hanswer.symm.trans hanswer'
      rfl
    | call hanswer' => cases hanswer.symm.trans hanswer'
  | call hanswer _ ih =>
    cases hw with
    | read hanswer' => cases hanswer.symm.trans hanswer'
    | call hanswer' hresult =>
      cases hanswer.symm.trans hanswer'
      exact ih hresult

theorem Returns.of_call {other : String}
    (hanswer : answerOf named method lines = some (.method other))
    (h : Returns named lines attributes method v) : Returns named lines attributes other v := by
  cases h with
  | read hanswer' => cases hanswer.symm.trans hanswer'
  | call hanswer' hresult =>
    cases hanswer.symm.trans hanswer'
    exact hresult

/-- A method that only calls itself returns nothing. -/
theorem Returns.ne_of_self_call (hself : answerOf named method lines = some (.method method))
    {other : String} (h : Returns named lines attributes other v) : other ≠ method := by
  induction h with
  | read hanswer =>
    rintro rfl
    cases hself.symm.trans hanswer
  | call hanswer _ ih =>
    rintro rfl
    cases hself.symm.trans hanswer
    exact ih rfl

theorem Returns.inherited (h : Returns named lines attributes method v) :
    bodyOf "get_attr" lines = none := by
  induction h with
  | read _ hinherited => exact hinherited
  | call _ _ ih => exact ih

end Results

section Ends

variable {named : String → Option Char} {m : Model} {a : AssociationClass} {lines : List String}

theorem replacement_of_head (m : Model) (a : AssociationClass) {l : List Char}
    (h : l.head? ≠ some 'g') :
    replacement (getterName m a.source) (getterName m a.target) (String.ofList l) = none :=
  replacement_eq_none_iff.2 (Or.inr ⟨getterName_ne h, getterName_ne h⟩)

theorem answerOf_of_body {method name : String} {other : Option String}
    (hother : ∀ called ∈ other, called = "get_to" ∨ called = "get_from")
    (h : bodyOf method lines =
      (other.map fun called => [callLine called]).or (some [readLine name])) :
    answerOf named method lines = some (other.elim (.stored name) .method) := by
  rw [answerOf, h]
  cases other with
  | none => exact answer?_read name
  | some called =>
    rcases hother called rfl with rfl | rfl
    · exact answer?_target
    · exact answer?_source

variable (hlines : ∀ method, bodyOf method lines = bodyOf method (associationLines m a))
include hlines

theorem bodyOf_initializer : bodyOf "__init__" lines = some (initializerBody m a) := by
  have hnone : replacement (getterName m a.source) (getterName m a.target) "__init__" = none :=
    replacement_of_head m a (by decide)
  simp [hlines, bodyOf_associationLines, hnone]

theorem bodyOf_createLink : bodyOf "create_link" lines = some (createLinkBody m a) := by
  have hnone : replacement (getterName m a.source) (getterName m a.target) "create_link" = none :=
    replacement_of_head m a (by decide)
  simp [hlines, bodyOf_associationLines, hnone]

theorem bodyOf_setter : bodyOf "set_attr" lines = none := by
  have hnone : replacement (getterName m a.source) (getterName m a.target) "set_attr" = none :=
    replacement_of_head m a (by decide)
  simp [hlines, bodyOf_associationLines, hnone]

theorem bodyOf_reader : bodyOf "get_attr" lines = none ↔
    replacement (getterName m a.source) (getterName m a.target) "get_attr" = none := by
  simp [hlines, bodyOf_associationLines]

theorem answerOf_source : answerOf named "get_from" lines =
    some ((replacement (getterName m a.source) (getterName m a.target) "get_from").elim
      (.stored (endAttribute m a.source)) .method) :=
  answerOf_of_body (fun _ h => replacement_eq_some h) (by simp [hlines, bodyOf_associationLines])

theorem answerOf_target : answerOf named "get_to" lines =
    some ((replacement (getterName m a.source) (getterName m a.target) "get_to").elim
      (.stored (endAttribute m a.target)) .method) :=
  answerOf_of_body (fun _ h => replacement_eq_some h) (by simp [hlines, bodyOf_associationLines])

/-- A link that has been made has its ends, the second one last. -/
theorem linkedAttributes_eq (named : String → Option Char) {α : Type} (value before : String → α) :
    ∃ given, linkedAttributes named lines value before =
      Function.update (Function.update given (endAttribute m a.source) (value "from_inst"))
        (endAttribute m a.target) (value "to_inst") := by
  rw [linkedAttributes, List.foldl_append, assignments, assignments, bodyOf_createLink hlines,
    Option.getD_some, assignments_createLinkBody]
  exact ⟨_, rfl⟩

end Ends

section KeyLetters

variable {doc : Json} (h : structureFindings doc = [])
include h

theorem keyLettersOf_of_valid {i : ClassId} (hi : i < (Model.ofDocument doc).classes.length) :
    ∃ entry, (classes doc)[i]? = some entry ∧
      text entry ["KL"] = some ((Model.ofDocument doc).keyLettersOf i) := by
  obtain ⟨pyNames, hclasses⟩ := Model.classes_ofDocument doc
  rw [classEntries_eq h] at hclasses
  rw [hclasses, List.length_mapIdx] at hi
  have hentry : (classes doc)[i]? = some (classes doc)[i] := List.getElem?_eq_getElem hi
  obtain ⟨-, kl, hkl⟩ := class_texts h (List.mem_of_getElem? hentry)
  refine ⟨_, hentry, ?_⟩
  rw [Model.keyLettersOf, hclasses, List.getElem?_mapIdx, hentry, hkl]
  simp [Class.placed, Class.ofEntry, ClassNaming.ofEntry, hkl]

/-- Classes have end attributes of their own. -/
theorem endAttribute_injective {i j : ClassId} (hi : i < (Model.ofDocument doc).classes.length)
    (hj : j < (Model.ofDocument doc).classes.length)
    (heq : endAttribute (Model.ofDocument doc) i = endAttribute (Model.ofDocument doc) j) :
    i = j := by
  obtain ⟨entry, hentry, hkl⟩ := keyLettersOf_of_valid h hi
  obtain ⟨entry', hentry', hkl'⟩ := keyLettersOf_of_valid h hj
  have hletters := (String.append_left_inj _).1 heq
  exact place_eq_of_lower_eq (keyLetters_of_valid h) hentry hkl hentry' hkl'
    (congrArg lower hletters)

end KeyLetters

/-- No getter that is named after a class takes the place of a method that getters rest on. -/
def GettersApart (m : Model) (a : AssociationClass) : Prop :=
  getterName m a.source = getterName m a.target ∨
    ∀ id ∈ [a.source, a.target], getterName m id ∉ ["get_from", "get_to", "get_attr"]

instance (m : Model) (a : AssociationClass) : Decidable (GettersApart m a) :=
  inferInstanceAs (Decidable (_ ∨ _))

theorem gettersApart_iff {m : Model} {a : AssociationClass} : GettersApart m a ↔
    ∀ method ∈ ["get_from", "get_to", "get_attr"],
      replacement (getterName m a.source) (getterName m a.target) method = none := by
  constructor
  · rintro (hsame | hapart) method hmethod
    · exact replacement_eq_none_iff.2 (Or.inl hsame)
    · refine replacement_eq_none_iff.2 (Or.inr ⟨?_, ?_⟩)
      · exact fun heq => hapart a.source List.mem_cons_self (heq ▸ hmethod)
      · exact fun heq => hapart a.target (by simp) (heq ▸ hmethod)
  · intro h
    by_cases hsame : getterName m a.source = getterName m a.target
    · exact Or.inl hsame
    · refine Or.inr fun id hid hmem => ?_
      obtain ⟨hsource, htarget⟩ := (replacement_eq_none_iff.1 (h _ hmem)).resolve_left hsame
      rcases List.mem_pair.1 hid with rfl | rfl
      · exact hsource rfl
      · exact htarget rfl

section Linked

variable {named : String → Option Char} {m : Model} {a : AssociationClass} {lines : List String}
  {α : Type} {attributes : String → α} {v w : α}
  (hlines : ∀ method, bodyOf method lines = bodyOf method (associationLines m a))
include hlines

/-- Two getters that return different values read their own attributes. -/
theorem stored_of_returns (hne : v ≠ w)
    (hv : Returns named lines attributes "get_from" v)
    (hw : Returns named lines attributes "get_to" w) :
    GettersApart m a ∧ v = attributes (endAttribute m a.source) ∧
      w = attributes (endAttribute m a.target) := by
  have hreader := hv.inherited
  have hsource : replacement (getterName m a.source) (getterName m a.target) "get_from" = none := by
    cases hother : replacement (getterName m a.source) (getterName m a.target) "get_from" with
    | none => rfl
    | some other =>
      have hanswer : answerOf named "get_from" lines = some (.method other) := by
        rw [answerOf_source hlines, hother]
        rfl
      rcases replacement_eq_some hother with rfl | rfl
      · exact absurd ((hv.of_call hanswer).unique hw) hne
      · exact absurd rfl (hv.ne_of_self_call hanswer)
  have htarget : replacement (getterName m a.source) (getterName m a.target) "get_to" = none := by
    cases hother : replacement (getterName m a.source) (getterName m a.target) "get_to" with
    | none => rfl
    | some other =>
      have hanswer : answerOf named "get_to" lines = some (.method other) := by
        rw [answerOf_target hlines, hother]
        rfl
      rcases replacement_eq_some hother with rfl | rfl
      · exact absurd rfl (hw.ne_of_self_call hanswer)
      · exact absurd (hv.unique (hw.of_call hanswer)) hne
  refine ⟨gettersApart_iff.2 ?_, ?_, ?_⟩
  · simp only [List.forall_mem_cons]
    exact ⟨hsource, htarget, (bodyOf_reader hlines).1 hreader, by simp⟩
  · refine hv.unique (.read ?_ hreader)
    rw [answerOf_source hlines, hsource]
    rfl
  · refine hw.unique (.read ?_ hreader)
    rw [answerOf_target hlines, htarget]
    rfl

theorem returns_stored (h : GettersApart m a) (attributes : String → α) :
    Returns named lines attributes "get_from"
      (attributes (endAttribute m a.source)) ∧
    Returns named lines attributes "get_to"
      (attributes (endAttribute m a.target)) := by
  have hnone := gettersApart_iff.1 h
  have hreader := (bodyOf_reader hlines).2 (hnone "get_attr" (by simp))
  refine ⟨.read ?_ hreader, .read ?_ hreader⟩
  · rw [answerOf_source hlines, hnone "get_from" (by simp)]
    rfl
  · rw [answerOf_target hlines, hnone "get_to" (by simp)]
    rfl

/-- The getters of a link return the instances that it joins when the ends have attributes of their
own and the getters are not replaced. -/
theorem returnsEnds_iff {value : String → α} (hvalue : value "from_inst" ≠ value "to_inst")
    (before : String → α) : ReturnsEnds named lines value before ↔
      endAttribute m a.source ≠ endAttribute m a.target ∧ GettersApart m a := by
  obtain ⟨given, hlinked⟩ := linkedAttributes_eq hlines named value before
  rw [ReturnsEnds, hlinked]
  constructor
  · rintro ⟨hsource, htarget⟩
    obtain ⟨hapart, hread, -⟩ := stored_of_returns hlines hvalue hsource htarget
    refine ⟨fun hsame => hvalue ?_, hapart⟩
    rw [hread, hsame, Function.update_self]
  · rintro ⟨hne, hapart⟩
    obtain ⟨hsource, htarget⟩ := returns_stored hlines hapart
      (Function.update (Function.update given (endAttribute m a.source) (value "from_inst"))
        (endAttribute m a.target) (value "to_inst"))
    rw [Function.update_of_ne hne, Function.update_self] at hsource
    rw [Function.update_self] at htarget
    exact ⟨hsource, htarget⟩

end Linked

section Docstrings

variable {named : String → Option Char} {m : Model} {a : AssociationClass} {l : List Char}

def startsWithCode (line : String) : Bool := (unindented line).head?.any (· != '"')

theorem startsWithCode_concat {line : String} (h : startsWithCode line = true) (rest : String) :
    startsWithCode (line ++ rest) = true := by
  obtain ⟨c, hhead, hc⟩ := (Option.any_eq_true _ _).1 h
  obtain ⟨after, hafter⟩ := List.head?_eq_some_iff.1 hhead
  rw [unindented] at hafter
  rw [startsWithCode, unindented, String.toList_append, List.dropWhile_append, hafter]
  exact hc

theorem startsWithCode_ofList (h : ((l.dropWhile (· == ' ')).head?.any (· != '"')) = true) :
    startsWithCode (String.ofList l) = true := by
  rw [startsWithCode, unindented, @String.toList_ofList l]
  exact h

theorem holdsOnlyText_of_code {line : String} (h : startsWithCode line = true) :
    HoldsOnlyText named line := by
  intro hquote
  rw [startsWithCode, hquote] at h
  cases h

theorem holdsOnlyText_ofList (h : ((l.dropWhile (· == ' ')).head?.any (· != '"')) = true) :
    HoldsOnlyText named (String.ofList l) :=
  holdsOnlyText_of_code (startsWithCode_ofList h)

theorem holdsOnlyText_append (h : ((l.dropWhile (· == ' ')).head?.any (· != '"')) = true)
    (rest : String) : HoldsOnlyText named (String.ofList l ++ rest) :=
  holdsOnlyText_of_code (startsWithCode_concat (startsWithCode_ofList h) rest)

theorem holdsOnlyText_empty : HoldsOnlyText named "" := fun h => by cases h

theorem Verbatim.holdsOnlyText {t : String} (h : Verbatim t)
    (hblank : (l.all fun c => c == ' ') = true) :
    HoldsOnlyText named (String.ofList l ++ docstring t) := by
  have hline : unindented (String.ofList l ++ docstring t) = (docstring t).toList := by
    rw [unindented, String.toList_append, @String.toList_ofList l,
      List.dropWhile_append_of_pos (List.all_eq_true.1 hblank)]
    simp [docstring]
  intro _
  rw [hline]
  exact ⟨_, h.denotes_docstring⟩

theorem holdsOnlyText_associationHead (h : PlainlyShown m a) :
    ∀ line ∈ associationHead m a, HoldsOnlyText named line := by
  simp only [associationHead, banner, List.cons_append, List.nil_append, List.forall_mem_cons]
  rw [@String.append_assoc "class "]
  exact ⟨holdsOnlyText_append (by decide) _, holdsOnlyText_ofList (by decide),
    holdsOnlyText_ofList (by decide), holdsOnlyText_empty, holdsOnlyText_ofList (by decide),
    holdsOnlyText_empty, holdsOnlyText_ofList (by decide), holdsOnlyText_empty,
    holdsOnlyText_empty, holdsOnlyText_append (by decide) _,
    h.associationText.holdsOnlyText (by decide), holdsOnlyText_empty,
    holdsOnlyText_append (by decide) _, holdsOnlyText_append (by decide) _,
    holdsOnlyText_ofList (by decide), holdsOnlyText_append (by decide) _, holdsOnlyText_empty,
    by simp⟩

theorem holdsOnlyText_initializerBody (m : Model) (a : AssociationClass) :
    ∀ line ∈ initializerBody m a, HoldsOnlyText named line := by
  have hown : ∀ line ∈ a.attributes.map attributeLine, HoldsOnlyText named line := by
    intro line hline
    obtain ⟨given, -, rfl⟩ := List.mem_map.1 hline
    have hstart : startsWithCode ("        self.set_attr(" ++ stringLiteral given.name) = true :=
      startsWithCode_concat (startsWithCode_ofList (by decide)) _
    have hvalue := startsWithCode_concat (startsWithCode_concat hstart ", ") given.initializer
    exact holdsOnlyText_of_code (startsWithCode_concat (startsWithCode_concat hvalue _) _)
  simp only [initializerBody, List.forall_mem_append, List.forall_mem_cons, String.append_assoc]
  exact ⟨⟨⟨holdsOnlyText_ofList (by decide), holdsOnlyText_append (by decide) _,
    holdsOnlyText_append (by decide) _, by simp⟩, hown⟩, holdsOnlyText_append (by decide) _,
    by simp⟩

theorem holdsOnlyText_createLinkBody (h : PlainlyShown m a) :
    ∀ line ∈ createLinkBody m a, HoldsOnlyText named line := by
  have hdocstring : HoldsOnlyText named ("        " ++ docstring
      ("Creates the association instance and links both ends across " ++ a.relId ++ ".")) :=
    h.linkText.holdsOnlyText (by decide)
  simp only [createLinkBody, List.forall_mem_cons]
  rw [@String.append_assoc _ (stringLiteral (endAttribute m a.source)),
    @String.append_assoc _ (stringLiteral (endAttribute m a.target)),
    @String.append_assoc _ (stringLiteral a.relId)]
  exact ⟨hdocstring, holdsOnlyText_ofList (by decide), holdsOnlyText_ofList (by decide),
    holdsOnlyText_ofList (by decide), holdsOnlyText_append (by decide) _,
    holdsOnlyText_append (by decide) _, holdsOnlyText_ofList (by decide),
    holdsOnlyText_ofList (by decide), holdsOnlyText_append (by decide) _,
    holdsOnlyText_ofList (by decide), by simp⟩

theorem holdsOnlyText_namedGetters (source target : String) :
    ∀ line ∈ namedGetters source target, HoldsOnlyText named line := by
  rw [namedGetters]
  split
  · simp
  · simp only [List.forall_mem_cons, String.append_assoc]
    exact ⟨holdsOnlyText_empty, holdsOnlyText_append (by decide) _,
      holdsOnlyText_ofList (by decide), holdsOnlyText_empty, holdsOnlyText_append (by decide) _,
      holdsOnlyText_ofList (by decide), by simp⟩

theorem holdsOnlyText_associationLines (h : PlainlyShown m a) :
    ∀ line ∈ associationLines m a, HoldsOnlyText named line := by
  simp only [associationLines, List.forall_mem_append, List.forall_mem_cons]
  rw [@String.append_assoc _ a.pyName,
    @String.append_assoc _ (stringLiteral (endAttribute m a.source)),
    @String.append_assoc _ (stringLiteral (endAttribute m a.target))]
  exact ⟨⟨⟨⟨⟨⟨holdsOnlyText_associationHead h, holdsOnlyText_ofList (by decide), by simp⟩,
    holdsOnlyText_initializerBody m a⟩, holdsOnlyText_empty, holdsOnlyText_ofList (by decide),
    holdsOnlyText_append (by decide) _, by simp⟩, holdsOnlyText_createLinkBody h⟩,
    holdsOnlyText_empty, holdsOnlyText_ofList (by decide), holdsOnlyText_append (by decide) _,
    holdsOnlyText_empty, holdsOnlyText_ofList (by decide), holdsOnlyText_append (by decide) _,
    by simp⟩, holdsOnlyText_namedGetters _ _⟩

end Docstrings

/-- The two attributes that stand for the ends, where the lines of an association class initialize,
set and read them. What starts like a docstring is nothing else. -/
structure NamesEnds (named : String → Option Char) (lines : List String) (source target : String) :
    Prop where
  initialized : ∃ own, assignments named "        self.set_attr(" "__init__" lines =
    ⟨source, "None"⟩ :: ⟨target, "None"⟩ :: own
  linked : assignments named "        assoc.set_attr(" "create_link" lines =
    [⟨source, "from_inst"⟩, ⟨target, "to_inst"⟩]
  sourceRead : ∃ line, ["    def get_from(self) -> Any:", line] <:+: lines ∧
    answer? named line = some (.stored source)
  targetRead : ∃ line, ["    def get_to(self) -> Any:", line] <:+: lines ∧
    answer? named line = some (.stored target)
  setter : bodyOf "set_attr" lines = none
  documented : ∀ line ∈ lines, HoldsOnlyText named line

theorem endGetters_part (m : Model) (a : AssociationClass) :
    ["", "    def get_from(self) -> Any:", readLine (endAttribute m a.source),
      "", "    def get_to(self) -> Any:", readLine (endAttribute m a.target)] <:+:
    associationLines m a :=
  ⟨_, _, rfl⟩

theorem bodyOf_association {m : Model} {a : AssociationClass} (hname : IsIdentifier a.pyName)
    (h : PlainlyShown m a) (method : String) :
    bodyOf method (sourceLines (associationModule m a).text) =
      bodyOf method (associationLines m a) := by
  rw [sourceLines_association hname h, bodyOf_concat_empty]

theorem namesEnds_association (named : String → Option Char) {m : Model} {a : AssociationClass}
    (hname : IsIdentifier a.pyName) (h : PlainlyShown m a) :
    NamesEnds named (sourceLines (associationModule m a).text) (endAttribute m a.source)
      (endAttribute m a.target) := by
  have hlines := bodyOf_association hname h
  have hpart : ["", "    def get_from(self) -> Any:", readLine (endAttribute m a.source),
      "", "    def get_to(self) -> Any:", readLine (endAttribute m a.target)] <:+:
      sourceLines (associationModule m a).text := by
    rw [sourceLines_association hname h]
    exact (endGetters_part m a).trans (List.prefix_append _ _).isInfix
  refine ⟨?_, ?_, ⟨_, List.IsInfix.trans ⟨[""], _, rfl⟩ hpart, answer?_read _⟩,
    ⟨_, List.IsInfix.trans ⟨[_, _, _, _], [], rfl⟩ hpart, answer?_read _⟩, bodyOf_setter hlines, ?_⟩
  · rw [assignments, bodyOf_initializer hlines]
    exact assignments_initializerBody m a
  · rw [assignments, bodyOf_createLink hlines]
    exact assignments_createLinkBody m a
  · rw [sourceLines_association hname h]
    exact List.forall_mem_append.2 ⟨holdsOnlyText_associationLines h,
      List.forall_mem_singleton.2 holdsOnlyText_empty⟩

theorem pyName_isIdentifier {doc : Json}
    (hfew : (Model.ofDocument doc).classNames.length < 2 ^ 31 - 2) {a : AssociationClass}
    (ha : a ∈ (Model.ofDocument doc).associations) : IsIdentifier a.pyName :=
  Model.codeNames_isIdentifier doc hfew _ (List.mem_append_right _ (List.mem_map_of_mem ha))

def courseDocument (name target : String) : Json := .object [
  ("classes", .array [
    .object [("KL", .string "STU"), ("class_id", .string "C1"), ("class_name", .string "Student")],
    .object [("KL", .string "CRS"), ("class_id", .string "C2"), ("class_name", .string name)]]),
  ("relationships", .array [
    .object [("fromMultiplicity", .string "*"), ("from_class", .string "STU"),
      ("rel_id", .string "R1"), ("toMultiplicity", .string "1..*"), ("to_class", .string target)]])]

def gradeDocument (type : String) : Json := .object [
  ("classes", .array [
    .object [("KL", .string "STU"), ("class_id", .string "C1"), ("class_name", .string "Student")],
    .object [("KL", .string "CRS"), ("class_id", .string "C2"), ("class_name", .string "Course")]]),
  ("relationships", .array [
    .object [("association_attributes", .array [
        .object [("attribute_name", .string "g"), ("data_type", .string type)]]),
      ("fromMultiplicity", .string "*"), ("from_class", .string "STU"), ("rel_id", .string "R1"),
      ("toMultiplicity", .string "1..*"), ("to_class", .string "CRS")]])]

/-- A type that is shown with a definition of the reading method in it replaces that method. -/
theorem not_returnsEnds_of_type {named : String → Option Char} {m : Model} {a : AssociationClass}
    {given : Attribute} (hgiven : given ∈ a.attributes)
    (hshown : "get_attr" ∈ headers (attributeLine given)) {α : Type} (value before : String → α) :
    ¬ ReturnsEnds named (sourceLines (associationModule m a).text) value before := by
  rintro ⟨hsource, -⟩
  have hline : attributeLine given ∈ associationLines m a := by
    simp only [associationLines, initializerBody, List.mem_append]
    exact Or.inl (Or.inl (Or.inl (Or.inl (Or.inr (Or.inl (Or.inr (List.mem_map_of_mem hgiven)))))))
  have hdefined : "get_attr" ∈ headers (associationModule m a).text := by
    rw [headers_text]
    exact List.mem_flatMap.2 ⟨_, hline, hshown⟩
  exact bodyOf_eq_none_iff.1 hsource.inherited hdefined

end Python

end ExecutableUml
