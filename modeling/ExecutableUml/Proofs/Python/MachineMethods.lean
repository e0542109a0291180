import ExecutableUml.Proofs.Document.Valid
import ExecutableUml.Proofs.Python.ClassMethods
import ExecutableUml.Proofs.Python.Docstrings
import ExecutableUml.Proofs.Python.SourceLines
import ExecutableUml.Proofs.Python.TableRows
import Mathlib.Data.List.Flatten

/-! The transition table of a class in its code. The rows are well defined for every machine. The
methods that they name are those of the transitions that do something, and the text of the code
defines each of them once as long as nothing that it shows ends a line. -/

namespace ExecutableUml

open Text

namespace Python

open TransitionRow ExecutableUml.Action

section Names

/-- The form of the names of the methods of transitions. -/
structure IsMethodName (name : String) : Prop where
  start : "_sm_action_".toList <+: name.toList
  wordChars : ∀ c ∈ name.toList, isWordChar c = true
  ascii : IsAscii name

variable {name rest : String}

theorem IsMethodName.append (h : IsMethodName name)
    (hword : ∀ c ∈ rest.toList, isWordChar c = true) (hascii : IsAscii rest) :
    IsMethodName (name ++ rest) where
  start := by
    rw [String.toList_append]
    exact h.start.trans (List.prefix_append ..)
  wordChars := by
    rw [String.toList_append]
    exact List.forall_mem_append.2 ⟨h.wordChars, hword⟩
  ascii := h.ascii.append hascii

theorem IsMethodName.isIdentifier (h : IsMethodName name) : IsIdentifier name := by
  obtain ⟨after, hafter⟩ := h.start
  have hchars : name.toList = '_' :: ("sm_action_".toList ++ after) := hafter.symm
  refine ⟨?_, h.wordChars, ?_, not_keyword_of_underscore ?_⟩
  · rintro rfl
    cases hchars
  · rw [hchars]
    rintro _ ⟨⟩
    decide
  · rw [hchars]
    exact List.mem_cons_self

theorem IsMethodName.paren_not_mem (h : IsMethodName name) : '(' ∉ name.toList := fun hmem =>
  absurd (h.wordChars _ hmem) (by decide)

theorem wordText_wordChars (s : String) : ∀ c ∈ (wordText s).toList, isWordChar c = true := by
  rw [wordText, String.toList_ofList]
  exact fun c hc => isWordChar_of_mem_replaced hc

theorem wordText_isAscii {s : String} (h : IsAscii s) : IsAscii (wordText s) := by
  rw [IsAscii, wordText, String.toList_ofList]
  intro c hc
  obtain ⟨d, hd, rfl⟩ := List.mem_map.1 hc
  split
  · exact h d hd
  · decide

theorem methodName_isMethodName {state event : String} (hstate : IsAscii state)
    (hevent : IsAscii event) : IsMethodName (methodName state event) := by
  have hmark : ∀ s ∈ ["_sm_action_", "_"],
      (s.toList.all fun c => isWordChar c && decide (c.toNat < 0x80)) = true := by decide
  have hword : ∀ s ∈ ["_sm_action_", "_"], ∀ c ∈ s.toList, isWordChar c = true := fun s hs c hc =>
    (Bool.and_eq_true_iff.1 (List.all_eq_true.1 (hmark s hs) c hc)).1
  have hascii : ∀ s ∈ ["_sm_action_", "_"], IsAscii s := fun s hs c hc =>
    of_decide_eq_true (Bool.and_eq_true_iff.1 (List.all_eq_true.1 (hmark s hs) c hc)).2
  have hstart : IsMethodName "_sm_action_" :=
    ⟨List.prefix_refl _, hword _ (by simp), hascii _ (by simp)⟩
  have hnamed := hstart.append (wordText_wordChars state) (wordText_isAscii hstate)
  have hjoined := hnamed.append (hword "_" (by simp)) (hascii "_" (by simp))
  exact hjoined.append (wordText_wordChars event) (wordText_isAscii hevent)

theorem toString_isAscii (n : Nat) : IsAscii (toString n) := by
  intro c hc
  have hdigits : c ∈ Nat.toDigits 10 n := by simpa [toString, Nat.toList_repr] using hc
  exact of_isDigit (P := fun c => c.toNat < 0x80) (by decide)
    (Nat.isDigit_of_mem_toDigits (by decide) (by decide) hdigits)

theorem IsMethodName.numbered (h : IsMethodName name) {k : Nat} (hk : k + 1 < 2 ^ 31) :
    IsMethodName (numbered name k) := by
  rw [numbered_eq name hk]
  split
  · exact h
  · have hjoined : IsMethodName (name ++ "_") := h.append (List.all_eq_true.1 (by decide))
      (fun c hc => by rw [List.mem_singleton.1 hc]; decide)
    exact hjoined.append (isWordChar_toString _) (toString_isAscii _)

/-- The names of methods are names in the code as long as the count of their forms is exact. -/
theorem isMethodName_of_mem {taken : List String} {ts : List Transition}
    (hfew : taken.length + ts.length < 2 ^ 31)
    (hascii : ∀ t ∈ ts, IsAscii t.source ∧ IsAscii t.event)
    (h : name ∈ methods (withMethods taken ts)) : IsMethodName name := by
  obtain ⟨row, hrow, hname⟩ := List.mem_filterMap.1 h
  obtain ⟨t, ht, used, hused, rfl⟩ := exists_of_mem_withMethods hrow
  obtain ⟨k, hk, hfirst⟩ :=
    exists_firstFree id (numbered_injective (methodName t.source t.event)) used
  obtain ⟨hsource, hevent⟩ := hascii t ht
  simp only at hname
  split at hname
  · cases hname
  · cases hname
    rw [freeName_of_firstFree hfirst hk]
    exact (methodName_isMethodName hsource hevent).numbered (by omega)

end Names

section Headers

variable (scope : Scope) (className : String) {m : StateMachine}

theorem isBodyLine_rowLines (row : TransitionRow) :
    ∀ line ∈ rowLines row, isBodyLine line = true := by
  intro line hline
  rcases List.mem_append.1 hline with hline | hline
  · split at hline
    · rw [List.mem_singleton.1 hline]
      simp only [String.append_assoc]
      exact isBodyLine_append (by decide) _
    · cases hline
  · rw [List.mem_singleton.1 hline]
    simp only [String.append_assoc]
    exact isBodyLine_append (by decide) _

theorem headers_transitionMethod (origins : List (String × String)) {row : TransitionRow}
    (h : ∀ own, row.method = some own → '(' ∉ own.toList) :
    (transitionMethod scope origins className row).lines.filterMap header? = row.method.toList := by
  unfold transitionMethod
  cases hmethod : row.method with
  | none => rfl
  | some own =>
    simp only [Module.append, List.cons_append, List.nil_append, List.append_assoc]
    rw [List.filterMap_cons_none header?_empty,
      List.filterMap_cons_some (header?_def (h own hmethod) _), filterMap_header?_body]
    · rfl
    · simp only [List.forall_mem_cons, List.forall_mem_append]
      refine ⟨isBodyLine_append (by decide) _, ?_, isBodyLine_ofList (by decide),
        isBodyLine_ofList (by decide), isBodyLine_actionBody scope origins _ _⟩
      intro line hline
      split at hline
      · cases hline
      · rw [List.mem_singleton.1 hline]
        exact isBodyLine_append (by decide) _

def machineMethods : List String :=
  ["_build_sm_table", "_build_state_machine", "dispatch_event", "get_current_state"]

/-- The methods that the code of a machine defines, in their order. -/
theorem headers_machineModule (h : ∀ name ∈ methods (explicit m), '(' ∉ name.toList) :
    (machineModule scope className m).lines.filterMap header? =
      methods (explicit m) ++ machineMethods := by
  have hmethods : (((explicit m).map (transitionMethod scope m.eventOrigins className)).flatMap
      Module.lines).filterMap header? = methods (explicit m) := by
    rw [List.flatMap_map, List.filterMap_flatMap, methods, List.filterMap_eq_flatMap_toList]
    refine List.flatMap_congr fun row hrow => headers_transitionMethod scope className _ ?_
    exact fun own hown => h own (List.mem_filterMap.2 ⟨row, hrow, hown⟩)
  have hrows : ((ofMachine m).flatMap rowLines).filterMap header? = [] := by
    refine filterMap_header?_body fun line hline => ?_
    obtain ⟨row, -, hline⟩ := List.mem_flatMap.1 hline
    exact isBodyLine_rowLines row line hline
  have htable : header? "    def _build_sm_table(self) -> Dict[str, Dict[str, Any]]:" =
      some "_build_sm_table" := header?_ofList_eq_some (by decide) ⟨_, rfl⟩
  have hmachine : header? "    def _build_state_machine(self) -> None:" =
      some "_build_state_machine" := header?_ofList_eq_some (by decide) ⟨_, rfl⟩
  have hdispatch :
      header? "    def dispatch_event(self, event_name: str, **payload: Any) -> bool:" =
        some "dispatch_event" := header?_ofList_eq_some (by decide) ⟨_, rfl⟩
  have hstate : header? "    def get_current_state(self) -> str:" = some "get_current_state" :=
    header?_ofList_eq_some (by decide) ⟨_, rfl⟩
  rw [machineModule, filter_explicit, Module.concat]
  simp only [List.flatMap_append, List.filterMap_append, hmethods, hrows, List.flatMap_singleton]
  rw [List.filterMap_cons_none header?_empty,
    List.filterMap_cons_none (header?_ofList (by decide)), List.filterMap_nil,
    List.filterMap_cons_none header?_empty, List.filterMap_cons_some htable,
    List.filterMap_cons_none (header?_ofList (by decide)), List.filterMap_nil,
    List.filterMap_cons_none (header?_ofList (by decide)),
    List.filterMap_cons_none header?_empty, List.filterMap_cons_some hmachine,
    List.filterMap_cons_none (header?_of_differ (by decide) _),
    List.filterMap_cons_none (header?_ofList (by decide)),
    List.filterMap_cons_none header?_empty, List.filterMap_cons_some hdispatch,
    List.filterMap_cons_none (header?_of_differ (by decide) _),
    List.filterMap_cons_none (header?_ofList (by decide)),
    List.filterMap_cons_none header?_empty, List.filterMap_cons_some hstate,
    List.filterMap_cons_none (header?_ofList (by decide)), List.filterMap_nil]
  rfl

end Headers

/-- The texts of a transition that the code of its machine shows as they are. -/
def shownTexts (scope : Scope) (origins : List (String × String)) (t : Transition) : List String :=
  [t.source, t.event, t.target] ++ t.eventParameters.flatMap (fun p => [p.name, p.type.text]) ++
    (t.guard.map compileExpression).toList ++
    (compileBody scope origins t.action).lines.map Line.text

/-- The code of the machine can be read line by line, and the methods of its transitions have names
that every reader of the code takes as they stand. -/
structure PlainlyWritten (scope : Scope) (m : StateMachine) : Prop where
  few : m.transitions.length < 2 ^ 31 - 2
  ascii : ∀ t ∈ m.transitions, IsAscii t.source ∧ IsAscii t.event
  oneLine : ∀ t ∈ m.transitions, ∀ s ∈ shownTexts scope m.eventOrigins t, OneLine s

instance (scope : Scope) (m : StateMachine) : Decidable (PlainlyWritten scope m) :=
  decidable_of_iff (m.transitions.length < 2 ^ 31 - 2 ∧
      (∀ t ∈ m.transitions, IsAscii t.source ∧ IsAscii t.event) ∧
      ∀ t ∈ m.transitions, ∀ s ∈ shownTexts scope m.eventOrigins t, OneLine s)
    ⟨fun h => ⟨h.1, h.2.1, h.2.2⟩, fun h => ⟨h.few, h.ascii, h.oneLine⟩⟩

section Lines

variable {scope : Scope} {m : StateMachine} {row : TransitionRow}

theorem oneLine_docstringText {s : String} (h : OneLine s) : OneLine (docstringText s) := by
  rw [OneLine, toList_docstringText, mem_docChars (by decide), mem_docChars (by decide)]
  exact h

theorem IsMethodName.oneLine_header {name : String} (h : IsMethodName name) :
    OneLine ("    def " ++ name ++ "(self, owner, payload: Dict[str, Any]) -> None:") :=
  (OneLine.append (by decide) (oneLine_of_wordChars h.wordChars)).append
    (oneLine_ofList (by decide))

theorem PlainlyWritten.isMethodName (h : PlainlyWritten scope m) {name : String}
    (hname : name ∈ methods (explicit m)) : IsMethodName name := by
  have hkept : (distinct sameTrigger m.transitions).Sublist m.transitions :=
    distinctFrom_sublist [] m.transitions
  have hfew := h.few
  have hlength := hkept.length_le
  refine isMethodName_of_mem ?_ (fun t ht => h.ascii t (hkept.subset ht)) hname
  rw [List.length_nil]
  omega

theorem oneLine_actionBody (origins : List (String × String)) (location action : String)
    (h : ∀ l ∈ (compileBody scope origins action).lines, OneLine l.text) :
    ∀ line ∈ (actionBody scope origins bodyIndent location action).lines, OneLine line := by
  intro line hline
  rw [actionBody] at hline
  split at hline
  · cases hline
  · obtain ⟨l, hl, rfl⟩ := List.mem_map.1 hline
    have hblanks : OneLine (String.ofList (List.replicate (4 * l.level) ' ')) :=
      oneLine_of_forall (P := fun c => c = ' ') (by simp) (by decide) (by decide)
    exact (OneLine.append (by decide) hblanks).append (h l hl)

theorem oneLine_transitionMethod (h : PlainlyWritten scope m) (className : String)
    (hrow : row ∈ explicit m) :
    ∀ line ∈ (transitionMethod scope m.eventOrigins className row).lines, OneLine line := by
  have hshown := h.oneLine _ (transition_mem_explicit hrow)
  simp only [shownTexts, List.forall_mem_append, List.forall_mem_cons,
    List.forall_mem_map] at hshown
  obtain ⟨⟨⟨⟨hsource, hevent, htarget, -⟩, hparameters⟩, -⟩, hlines⟩ := hshown
  unfold transitionMethod
  cases hmethod : row.method with
  | none => simp
  | some own =>
    have hown := h.isMethodName (List.mem_filterMap.2 ⟨row, hrow, hmethod⟩)
    have hparameter : ∀ p ∈ row.transition.eventParameters,
        OneLine (p.name ++ ": " ++ p.type.text) := by
      intro p hp
      have hboth := fun s hs => hparameters s (List.mem_flatMap.2 ⟨p, hp, hs⟩)
      exact ((hboth _ (by simp)).append (by decide)).append (hboth _ (by simp))
    have hleaves := (oneLine_docstringText hsource).append (t := " --") (by decide)
    have hhears := (hleaves.append (oneLine_docstringText hevent)).append (t := "--> ") (by decide)
    have hdocstring : OneLine (docstring (docstringText row.transition.source ++ " --" ++
        docstringText row.transition.event ++ "--> " ++ docstringText row.transition.target)) :=
      (OneLine.append (by decide) (hhears.append (oneLine_docstringText htarget))).append
        (by decide)
    have hcomment : OneLine ("        # Event parameters: " ++ joinWith ", "
        (row.transition.eventParameters.map fun p => p.name ++ ": " ++ p.type.text)) :=
      OneLine.append (oneLine_ofList (by decide))
        (oneLine_joinWith (by decide) (List.forall_mem_map.2 hparameter))
    simp only [Module.append, List.forall_mem_append, List.forall_mem_cons]
    refine ⟨⟨⟨⟨by decide, ?_, ?_, by simp⟩, ?_⟩, ?_, ?_, by simp⟩, ?_⟩
    · exact hown.oneLine_header
    · exact OneLine.append (by decide) hdocstring
    · split
      · simp
      · exact List.forall_mem_singleton.2 hcomment
    · exact oneLine_ofList (by decide)
    · exact oneLine_ofList (by decide)
    · exact oneLine_actionBody _ _ _ hlines

/-- The state that a row is taken over for is the start of the one that it is taken from. -/
theorem oneLine_aliasOf (h : PlainlyWritten scope m) (hrow : row ∈ ofMachine m) {origin : String}
    (halias : row.aliasOf = some origin) : OneLine row.state ∧ OneLine origin := by
  rcases List.mem_append.1 hrow with hrow | hrow
  · rw [aliasOf_eq_none hrow] at halias
    cases halias
  · obtain ⟨lender, hlender, hbase, hlent⟩ := exists_lender hrow
    rw [hlent] at halias
    cases halias
    have hsource : OneLine lender.state := by
      rw [state_of_mem_explicit hlender]
      exact h.oneLine _ (transition_mem_explicit hlender) _ (by simp [shownTexts])
    obtain ⟨after, hafter⟩ := (baseName?_eq_some_iff.1 hbase).2
    refine ⟨?_, hsource⟩
    rw [OneLine, ← hafter] at hsource
    simp only [List.mem_append, not_or] at hsource
    exact ⟨hsource.1.1.1, hsource.2.1.1⟩

theorem oneLine_rowLines (h : PlainlyWritten scope m) (hrow : row ∈ ofMachine m) :
    ∀ line ∈ rowLines row, OneLine line := by
  have hshown := h.oneLine _ (transition_mem_ofMachine hrow)
  intro line hline
  rcases List.mem_append.1 hline with hline | hline
  · split at hline
    · rename_i origin halias
      obtain ⟨hstate, horigin⟩ := oneLine_aliasOf h hrow halias
      rw [List.mem_singleton.1 hline]
      exact ((OneLine.append (by decide) hstate).append (by decide)).append horigin
    · cases hline
  · rw [List.mem_singleton.1 hline]
    have hopen : OneLine ("        table.setdefault(" ++ stringLiteral row.state ++
        ", \x7b\x7d)[" ++ stringLiteral row.transition.event ++ "] = (") :=
      (((OneLine.append (oneLine_ofList (by decide)) (oneLine_stringLiteral _)).append
        (by decide)).append (oneLine_stringLiteral _)).append (by decide)
    refine ((((OneLine.append (OneLine.append hopen ?_) (by decide)).append ?_).append
      (by decide)).append (oneLine_stringLiteral _)).append (by decide)
    · split
      · rename_i expr hguard
        exact OneLine.append (oneLine_ofList (by decide)) (hshown _ (by simp [shownTexts, hguard]))
      · decide
    · split
      · rename_i name hname
        have hword := (h.isMethodName (method_mem hrow hname)).wordChars
        exact OneLine.append (by decide) (oneLine_of_wordChars hword)
      · decide

theorem oneLine_machineModule (h : PlainlyWritten scope m) (className : String) :
    ∀ line ∈ (machineModule scope className m).lines, OneLine line := by
  rw [machineModule, filter_explicit, Module.concat]
  simp only [List.flatMap_append, List.forall_mem_append, List.flatMap_singleton,
    List.forall_mem_cons]
  refine ⟨⟨⟨by decide, oneLine_ofList (by decide), by simp⟩, ?_⟩,
    ⟨⟨by decide, oneLine_ofList (by decide), oneLine_ofList (by decide), by simp⟩, ?_⟩,
    oneLine_ofList (by decide), by decide, oneLine_ofList (by decide),
    OneLine.append (oneLine_ofList (by decide)) (oneLine_stringLiteral _),
    oneLine_ofList (by decide), by decide, oneLine_ofList (by decide), ?_,
    oneLine_ofList (by decide), by decide, oneLine_ofList (by decide), oneLine_ofList (by decide),
    by simp⟩
  · intro line hline
    rw [List.flatMap_map] at hline
    obtain ⟨row, hrow, hline⟩ := List.mem_flatMap.1 hline
    exact oneLine_transitionMethod h className hrow line hline
  · intro line hline
    obtain ⟨row, hrow, hline⟩ := List.mem_flatMap.1 hline
    exact oneLine_rowLines h hrow line hline
  · exact OneLine.append (by decide)
      ((OneLine.append (by decide) (oneLine_ofList (by decide))).append (by decide))

end Lines

/-- What the rows of a state machine have to be. -/
structure WellDefined (m : StateMachine) (rows : List TransitionRow) : Prop where
  /-- No two rows are for the same state and event. -/
  keys : (rows.map key).Nodup
  /-- Where there are transitions, the explicit row has the first of them. -/
  own : ∀ t ∈ m.transitions, ∃ row ∈ rows, row.key = t.key ∧ row.aliasOf = none ∧
    (m.transitions.find? fun u => u.key == t.key) = some row.transition
  /-- Where there is none, a declared state reacts like its variants. -/
  lent : ∀ state event, (∀ t ∈ m.transitions, t.key ≠ (state, event)) →
    ((∃ row ∈ rows, row.key = (state, event)) ↔
      m.hasState state = true ∧ IsBaseName state ∧
        ∃ t ∈ m.transitions, t.leavesVariantOf state event = true)
  /-- The variant whose transition is declared first counts. -/
  lentFirst : ∀ row ∈ rows, (∀ t ∈ m.transitions, t.key ≠ row.key) →
    m.transitions.find? (Transition.leavesVariantOf row.state row.transition.event) =
      some row.transition
  /-- Exactly the explicit rows that do something have methods of their own. -/
  action : ∀ row ∈ rows, row.aliasOf = none →
    row.method.isSome = !(trimmed row.transition.action).isEmpty
  distinct : (methods (rows.filter fun row => row.aliasOf.isNone)).Nodup
  /-- Whatever row names a method, one explicit row has it. -/
  owner : ∀ row ∈ rows, ∀ name, row.method = some name →
    ∃! origin, origin ∈ rows ∧ origin.aliasOf = none ∧ origin.method = some name

theorem wellDefined_ofMachine (m : StateMachine) : WellDefined m (ofMachine m) where
  keys := keys_nodup m
  own t ht := by
    obtain ⟨row, hrow, hkey, hfirst⟩ := exists_explicit ht
    obtain ⟨hmem, halias⟩ := mem_explicit_iff.1 hrow
    exact ⟨row, hmem, hkey, halias, hfirst⟩
  lent _ _ h := exists_row_iff h
  lentFirst row hrow h := transition_of_lent h hrow rfl
  action row hrow halias := method_isSome (mem_explicit_iff.2 ⟨hrow, halias⟩)
  distinct := by
    rw [filter_explicit]
    exact methods_nodup m
  owner row hrow name hname := by
    obtain ⟨origin, horigin, hmethod⟩ := List.mem_filterMap.1 (method_mem hrow hname)
    obtain ⟨hmem, halias⟩ := mem_explicit_iff.1 horigin
    exact ⟨origin, ⟨hmem, halias, hmethod⟩, fun other hother =>
      eq_of_method (mem_explicit_iff.2 ⟨hother.1, hother.2.1⟩) horigin hother.2.2 hmethod⟩

/-- One line of the text starts the definition of the method, whose name is one that code can
have. -/
structure DefinesOnce (text name : String) : Prop where
  identifier : IsIdentifier name
  ascii : IsAscii name
  once : (headers text).count name = 1

theorem IsMethodName.not_mem_machineMethods {name : String} (h : IsMethodName name) :
    name ∉ machineMethods := by
  have hfixed : (machineMethods.all fun own =>
      !startsWith "_sm_action_".toList own.toList) = true := by decide +kernel
  intro hmem
  have hstart := List.all_eq_true.1 hfixed name hmem
  rw [startsWith_iff.2 h.start] at hstart
  cases hstart

theorem PlainlyWritten.definesOnce {scope : Scope} {m : StateMachine} (h : PlainlyWritten scope m)
    (className : String) {name : String} (hname : name ∈ methods (explicit m)) :
    DefinesOnce (machineModule scope className m).text name := by
  have hmethod := h.isMethodName hname
  refine ⟨hmethod.isIdentifier, hmethod.ascii, ?_⟩
  rw [headers_text_of_oneLine (oneLine_machineModule h className),
    headers_machineModule scope className fun own hown => (h.isMethodName hown).paren_not_mem,
    List.count_append, List.count_eq_one_of_mem (methods_nodup m) hname,
    List.count_eq_zero_of_not_mem hmethod.not_mem_machineMethods]

def doorDocument (variant : String) : Json := .object [
  ("events", .array [
    .object [("class_id", .string "D"), ("event_name", .string "e")],
    .object [("class_id", .string "D"), ("event_name", .string "f")]]),
  ("model", .array [.object [("KL", .string "D"), ("class_id", .string "1"),
    ("class_name", .string "Door"),
    ("states", .array [
      .object [("state_name", .string "A")],
      .object [("action", .string "return;"), ("next_state", .string "A"),
        ("state_event", .string "e"), ("state_name", .string "B")],
      .object [("next_state", .string "A"), ("state_event", .string "f"),
        ("state_name", .string variant)]])]])]

def doorMachine (variant : String) : StateMachine :=
  ⟨"A", [⟨"A", "A"⟩, ⟨"B", "B"⟩, ⟨variant, variant⟩],
    [⟨"B", "e", "e", [], none, "return;", "A"⟩, ⟨variant, "f", "f", [], none, "", "A"⟩]⟩

/-- The methods of transitions are written before the rows. -/
theorem methods_rows_sublist (scope : Scope) (className : String) (m : StateMachine) :
    (((explicit m).flatMap fun row =>
        (transitionMethod scope m.eventOrigins className row).lines) ++
      (ofMachine m).flatMap rowLines).Sublist (machineModule scope className m).lines := by
  rw [machineModule, filter_explicit, Module.concat]
  simp only [List.flatMap_append, List.flatMap_map, List.flatMap_singleton]
  refine (List.sublist_append_right _ _).append ?_
  exact (List.sublist_append_right _ _).trans (List.sublist_append_left _ _)

theorem one_le_count_headers {line name : String} {lines : List String} (h : line ∈ lines)
    (hname : name ∈ headers line) : 1 ≤ (lines.flatMap headers).count name := by
  have hpart := (List.singleton_sublist.2 h).flatMap headers
  rw [List.flatMap_singleton] at hpart
  exact List.count_pos_iff.2 (hpart.subset hname)

/-- A method is defined again where a name that is shown for a row that is taken over defines it. -/
theorem two_le_count_headers (scope : Scope) (className : String) {m : StateMachine}
    {row other : TransitionRow} {name origin : String} (hname : IsMethodName name)
    (hrow : row ∈ explicit m) (hmethod : row.method = some name) (hother : other ∈ ofMachine m)
    (halias : other.aliasOf = some origin)
    (hshown : name ∈ headers ("        # " ++ other.state ++ " inherits from " ++ origin)) :
    2 ≤ (headers (machineModule scope className m).text).count name := by
  have hheader : name ∈ headers
      ("    def " ++ name ++ "(self, owner, payload: Dict[str, Any]) -> None:") := by
    rw [headers_of_oneLine hname.oneLine_header, header?_def hname.paren_not_mem]
    exact List.mem_cons_self
  have hfirst : 1 ≤ (((explicit m).flatMap fun row =>
      (transitionMethod scope m.eventOrigins className row).lines).flatMap headers).count name := by
    refine one_le_count_headers (List.mem_flatMap.2 ⟨row, hrow, ?_⟩) hheader
    rw [transitionMethod, hmethod]
    exact List.mem_append_left _ (by simp)
  have hagain : 1 ≤ (((ofMachine m).flatMap rowLines).flatMap headers).count name := by
    refine one_le_count_headers (List.mem_flatMap.2 ⟨other, hother, ?_⟩) hshown
    rw [rowLines, halias]
    exact List.mem_append_left _ List.mem_cons_self
  have hboth := ((methods_rows_sublist scope className m).flatMap headers).count_le name
  rw [List.flatMap_append, List.count_append] at hboth
  rw [headers_text]
  omega

end Python

end ExecutableUml
