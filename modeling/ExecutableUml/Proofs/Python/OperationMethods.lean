import ExecutableUml.Proofs.Action.Relexing
import ExecutableUml.Proofs.Document.ClassReferences
import ExecutableUml.Proofs.Python.ClassMethods
import ExecutableUml.Proofs.Python.WellFormedNames
import ExecutableUml.Python.ClassModule

/-! Operations as methods. An operation is defined under an identifier made from its name, and is
called by its name as it stands. So each operation of a class has a method of its own that calls
reach just when no two names are spelled alike and no name is a keyword. -/

namespace ExecutableUml

open Text

namespace Python

open ExecutableUml.Action

def spelling (name : String) : String :=
  String.ofList (withWordStart ((trim name.toList).map fun c => if isWordChar c then c else '_'))

theorem identifier_eq (name : String) :
    identifier name = if spelling name ∈ keywords then spelling name ++ "_" else spelling name := by
  have hcontains : identifier name =
      if keywords.contains (spelling name) then spelling name ++ "_" else spelling name := rfl
  rw [hcontains]
  by_cases h : spelling name ∈ keywords
  · rw [if_pos h, if_pos (List.contains_iff_mem.2 h)]
  · rw [if_neg h, if_neg (mt List.contains_iff_mem.1 h)]

theorem identifier_of_not_keyword {name : String} (h : spelling name ∉ keywords) :
    identifier name = spelling name := by
  rw [identifier_eq, if_neg h]

theorem withWordStart_eq_self {cs : List Char} (hne : cs ≠ [])
    (hstart : ∀ c ∈ cs.head?, c.isDigit = false) : withWordStart cs = cs := by
  cases cs with
  | nil => exact absurd rfl hne
  | cons c cs => rw [withWordStart, if_neg (by simp [hstart c rfl])]

theorem mem_withWordStart {c : Char} {cs : List Char} (h : c ∈ cs) : c ∈ withWordStart cs := by
  cases cs with
  | nil => cases h
  | cons d cs =>
    rw [withWordStart]
    split
    · exact List.mem_cons_of_mem '_' h
    · exact h

/-- A word that starts like one is spelled as it stands. -/
theorem spelling_eq_self {name : String} (hne : name.toList ≠ [])
    (hword : ∀ c ∈ name.toList, isWordChar c = true)
    (hstart : ∀ c ∈ name.toList.head?, c.isDigit = false) : spelling name = name := by
  have hblank : ∀ c ∈ name.toList, isBlank c = false := fun c hc =>
    not_blank_of_wordChar (hword c hc)
  have hmap : (name.toList.map fun c => if isWordChar c then c else '_') = name.toList := by
    refine (List.map_congr_left fun c hc => ?_).trans (List.map_id _)
    rw [if_pos (hword c hc)]
    rfl
  rw [spelling, trim_eq_self (fun c hc => hblank c (List.mem_of_mem_head? hc))
    (fun c hc => hblank c (List.mem_of_mem_getLast? hc)), hmap, withWordStart_eq_self hne hstart,
    String.ofList_toList]

/-- Only a keyword is spelled like one. -/
theorem eq_of_spelling_keyword {name : String} (htrim : trim name.toList = name.toList)
    (h : spelling name ∈ keywords) : spelling name = name := by
  have hunderscore := keyword_no_underscore h
  rw [spelling, htrim, String.toList_ofList] at hunderscore
  have hword : ∀ c ∈ name.toList, isWordChar c = true := by
    intro c hc
    by_contra hplain
    refine hunderscore (mem_withWordStart (List.mem_map.2 ⟨c, hc, ?_⟩))
    rw [if_neg hplain]
  have hne : name.toList ≠ [] := by
    intro hnil
    rw [hnil] at hunderscore
    exact hunderscore List.mem_cons_self
  refine spelling_eq_self hne hword fun c hc => ?_
  by_contra hdigit
  obtain ⟨rest, hrest⟩ := List.head?_eq_some_iff.1 hc
  rw [hrest, List.map_cons, if_pos (hword c (List.mem_of_mem_head? hc)), withWordStart,
    if_pos (by simpa using hdigit)] at hunderscore
  exact hunderscore List.mem_cons_self

/-- Names in action texts are spelled as they stand. -/
theorem spelling_of_isName {name : String} (h : IsName name) : spelling name = name := by
  obtain ⟨hne, hword⟩ := h.wordChars
  refine spelling_eq_self hne hword fun c hc => ?_
  have hstart := (h.head [] c (by rwa [List.append_nil])).2
  by_contra hdigit
  rw [Bool.not_eq_false] at hdigit
  have hdigits := of_isDigit (P := fun c => isWordStart c = false) (by decide) hdigit
  rw [hdigits] at hstart
  cases hstart

theorem isName_of_keyword {word : String} (h : word ∈ keywords) : IsName word := by
  have hall : (keywords.all fun w => decide (IsName w)) = true := by decide +kernel
  exact of_decide_eq_true (List.all_eq_true.1 hall word h)

/-- A name in action texts is its own identifier unless it is a keyword. -/
theorem identifier_eq_self_iff {name : String} (h : IsName name) :
    identifier name = name ↔ name ∉ keywords := by
  rw [identifier_eq, spelling_of_isName h]
  split
  · rename_i hkeyword
    refine iff_of_false (fun heq => ?_) (not_not_intro hkeyword)
    have hlength := congrArg String.length heq
    simp at hlength
  · rename_i hkeyword
    exact iff_of_true rfl hkeyword

theorem trim_splitSignature (signature : String) :
    trim (Document.splitSignature signature).1.toList =
      (Document.splitSignature signature).1.toList := by
  have hwhole : trim (String.ofList (trim signature.toList)).toList =
      (String.ofList (trim signature.toList)).toList := by
    rw [String.toList_ofList, trim_trim]
  rw [Document.splitSignature]
  split
  · rename_i head rest _
    split
    · have hblank : ∀ c ∈ ((trim head).reverse.takeWhile isWordChar).reverse, isBlank c = false :=
        fun c hc => not_blank_of_wordChar
          (List.all_eq_true.1 List.all_takeWhile c (List.mem_reverse.1 hc))
      rw [String.toList_ofList]
      exact trim_eq_self (fun c hc => hblank c (List.mem_of_mem_head? hc))
        fun c hc => hblank c (List.mem_of_mem_getLast? hc)
    · exact hwhole
  · exact hwhole

/-- The operations of a class in a model have names without blanks around them. -/
theorem trim_operationName {doc : Json} {id : ClassId} {c : Class}
    (hc : (Model.ofDocument doc).classes[id]? = some c) {o : Operation} (ho : o ∈ c.operations) :
    trim o.name.toList = o.name.toList := by
  obtain ⟨pyNames, hclasses⟩ := Model.classes_ofDocument doc
  rw [hclasses, List.getElem?_mapIdx] at hc
  obtain ⟨entry, -, rfl⟩ := Option.map_eq_some_iff.1 hc
  obtain ⟨item, -, hitem⟩ := List.mem_filterMap.1 ho
  obtain ⟨signature, -, hmade⟩ := Option.bind_eq_some_iff.1 hitem
  cases hmade
  exact trim_splitSignature signature

section Definitions

variable (symbols : SymbolTable) (c : Class)

def operationLines (o : Operation) : List String :=
  let scope := moduleScope symbols (some c.name)
  if c.isExternal then
    (operationModule scope [] c.name "BRIDGE" (c.keyLetters ++ "::" ++ o.name) o).lines
  else
    (operationModule scope ((c.stateMachine.map StateMachine.eventOrigins).getD []) c.name "OP"
      (c.pyName ++ "." ++ o.name) o).lines

theorem lines_classModule (m : Model) (id : ClassId) :
    ∃ before after, (classModule m symbols id c).lines =
      before ++ c.operations.flatMap (operationLines symbols c) ++ after := by
  rw [classModule]
  cases hexternal : c.isExternal with
  | true =>
    have hlines : operationLines symbols c = fun o =>
        (operationModule (moduleScope symbols (some c.name)) [] c.name "BRIDGE"
          (c.keyLetters ++ "::" ++ o.name) o).lines := by
      funext o
      rw [operationLines, hexternal]
      rfl
    rw [if_pos rfl, externalModule, Module.concat, List.flatMap_cons, List.flatMap_map, hlines]
    exact ⟨_, [], (List.append_nil _).symm⟩
  | false =>
    have hlines : operationLines symbols c = fun o =>
        (operationModule (moduleScope symbols (some c.name))
          ((c.stateMachine.map StateMachine.eventOrigins).getD []) c.name "OP"
          (c.pyName ++ "." ++ o.name) o).lines := by
      funext o
      rw [operationLines, hexternal]
      rfl
    rw [if_neg (by decide), instanceClassModule, Module.concat, List.flatMap_append,
      List.flatMap_append, List.flatMap_map, hlines]
    exact ⟨_, _, rfl⟩

theorem isBodyLine_operationHeader (tag label : String) (o : Operation) :
    ∃ body, operationHeader tag label o =
        "" :: ("    def " ++ identifier o.name ++ "(self, " ++ parameterList o.parameters ++ "):") ::
          body ∧
      ∀ line ∈ body, isBodyLine line = true := by
  have hbindings : ∀ line ∈ parameterBindings bodyIndent o.parameters, isBodyLine line = true := by
    intro line hline
    obtain ⟨p, -, rfl⟩ := List.mem_map.1 hline
    have hstart : isBodyLine (bodyIndent ++ "kwargs[") = true := isBodyLine_append (by decide) _
    exact isBodyLine_concat (isBodyLine_concat (isBodyLine_concat hstart _) _) _
  have hlog : isBodyLine ("        rt.log(" ++ stringLiteral tag) = true :=
    isBodyLine_append (by decide) _
  refine ⟨(operationHeader tag label o).drop 2, rfl, ?_⟩
  simp only [operationHeader, List.cons_append, List.nil_append, List.drop_succ_cons,
    List.drop_zero, List.forall_mem_cons, List.forall_mem_append]
  refine ⟨isBodyLine_append (by decide) _, isBodyLine_ofList (by decide),
    isBodyLine_ofList (by decide), isBodyLine_ofList (by decide), hbindings, ?_, by simp⟩
  exact isBodyLine_concat (isBodyLine_concat (isBodyLine_concat hlog _) _) _

/-- An operation is one method, whatever its action is. -/
theorem header?_operationModule (scope : Scope) (origins : List (String × String))
    (className tag label : String) (o : Operation) :
    (operationModule scope origins className tag label o).lines.filterMap header? =
      [identifier o.name] := by
  have hparen : '(' ∉ (identifier o.name).toList := fun hmem =>
    absurd ((identifier_isIdentifier o.name).wordChars _ hmem) (by decide)
  have hheader : header? ("    def " ++ identifier o.name ++ "(self, ") =
      some (identifier o.name) := header?_def hparen _
  obtain ⟨body, hlines, hbody⟩ := isBodyLine_operationHeader tag label o
  rw [operationModule, Module.append, hlines, List.filterMap_append,
    filterMap_header?_body (isBodyLine_actionBody scope origins _ _),
    List.filterMap_cons_none header?_empty,
    List.filterMap_cons_some (header?_concat (header?_concat hheader _) _),
    filterMap_header?_body hbody, List.append_nil]

theorem header?_operationLines (o : Operation) :
    (operationLines symbols c o).filterMap header? = [identifier o.name] := by
  rw [operationLines]
  split
  · exact header?_operationModule _ _ _ _ _ o
  · exact header?_operationModule _ _ _ _ _ o

end Definitions

section Calls

/-- The line calls the method of the receiver, if the receiver has it. -/
def CallsMethod (receiver method line : String) : Prop :=
  ∃ args, line = "if hasattr(" ++ receiver ++ ", '" ++ method ++ "'): " ++ receiver ++ "." ++
    method ++ "(" ++ args ++ ")"

/-- Every statement that calls an operation by the name is a call of the method. -/
def CallsReach (name method : String) : Prop :=
  ∀ (scope : Scope) (origins : List (String × String)) (text object : String)
    (args : List Argument), ∃ line,
    (scope.statement origins text (.methodCall object name args)).emissions = [.simple line] ∧
      CallsMethod (scope.var object) method line

variable {receiver method other line : String}

theorem CallsMethod.unique (hm : '\'' ∉ method.toList) (ho : '\'' ∉ other.toList)
    (h : CallsMethod receiver method line) (hcalls : CallsMethod receiver other line) :
    method = other := by
  obtain ⟨args, rfl⟩ := h
  obtain ⟨others, heq⟩ := hcalls
  have hchars := congrArg String.toList heq
  have hmark : "'): ".toList = '\'' :: [')', ':', ' '] := rfl
  simp only [String.toList_append, List.append_assoc, List.append_cancel_left_eq, hmark,
    List.cons_append] at hchars
  have hcut := congrArg (cutAtChar '\'') hchars
  rw [cutAtChar_append hm, cutAtChar_append ho] at hcut
  exact String.toList_injective (Prod.mk.inj (Option.some.inj hcut)).1

theorem quote_not_mem (h : ∀ c ∈ method.toList, isWordChar c = true) : '\'' ∉ method.toList :=
  fun hmem => absurd (h _ hmem) (by decide)

/-- Calls of a name reach the method of this name only. -/
theorem callsReach_iff {name : String} (hname : IsName name)
    (hmethod : ∀ c ∈ method.toList, isWordChar c = true) :
    CallsReach name method ↔ method = name := by
  constructor
  · intro h
    obtain ⟨line, hline, hcalls⟩ := h ⟨⟨[], []⟩, none, "", [], none⟩ [] "" "" []
    cases hline
    exact hcalls.unique (quote_not_mem hmethod) (quote_not_mem hname.wordChars.2) ⟨_, rfl⟩
  · rintro rfl scope origins text object args
    exact ⟨_, rfl, _, rfl⟩

end Calls

/-- Operations are kept apart and are called. For every class of a document, its module defines
each operation as one method, in its text too where nothing in it ends a line; the methods are
different and are those that statements call just when no two names of operations are spelled alike
and none is a keyword. -/
theorem operations_callable_iff (doc : Json) (symbols : SymbolTable) (id : ClassId) (c : Class)
    (hc : (Model.ofDocument doc).classes[id]? = some c) :
    ∃ before after, (classModule (Model.ofDocument doc) symbols id c).lines =
        before ++ c.operations.flatMap (operationLines symbols c) ++ after ∧
      ∃ method : Operation → String,
        (∀ o ∈ c.operations, (operationLines symbols c o).filterMap header? = [method o] ∧
          ((∀ line ∈ operationLines symbols c o, OneLine line) →
            headers (Module.text ⟨operationLines symbols c o, []⟩) = [method o])) ∧
        (((c.operations.map method).Nodup ∧
            ∀ o ∈ c.operations, IsName o.name → CallsReach o.name (method o)) ↔
          (c.operations.map fun o => spelling o.name).Nodup ∧
            ∀ o ∈ c.operations, o.name ∉ keywords) := by
  obtain ⟨before, after, hlines⟩ := lines_classModule symbols c (Model.ofDocument doc) id
  refine ⟨before, after, hlines, fun o => identifier o.name,
    fun o _ => ⟨header?_operationLines symbols c o, fun hone => ?_⟩, ?_⟩
  · rw [headers_text_of_oneLine hone]
    exact header?_operationLines symbols c o
  -- Without keywords an identifier is only a spelling.
  have hspelled : (∀ o ∈ c.operations, o.name ∉ keywords) →
      (c.operations.map fun o => identifier o.name) =
        c.operations.map fun o => spelling o.name := by
    intro hkeywords
    refine List.map_congr_left fun o ho => identifier_of_not_keyword fun hkeyword => ?_
    rw [eq_of_spelling_keyword (trim_operationName hc ho) hkeyword] at hkeyword
    exact hkeywords o ho hkeyword
  constructor
  · rintro ⟨hnodup, hcalls⟩
    have hkeywords : ∀ o ∈ c.operations, o.name ∉ keywords := by
      intro o ho hkeyword
      have hname := isName_of_keyword hkeyword
      have hcall := hcalls o ho hname
      rw [callsReach_iff hname (identifier_isIdentifier o.name).wordChars] at hcall
      exact (identifier_eq_self_iff hname).1 hcall hkeyword
    exact ⟨hspelled hkeywords ▸ hnodup, hkeywords⟩
  · rintro ⟨hnodup, hkeywords⟩
    refine ⟨(hspelled hkeywords).symm ▸ hnodup, fun o ho hname => ?_⟩
    rw [callsReach_iff hname (identifier_isIdentifier o.name).wordChars]
    exact (identifier_eq_self_iff hname).2 (hkeywords o ho)

def accountDocument (operations : List String) : Json := .object [
  ("classes", .array [
    .object [("KL", .string "ACC"), ("class_id", .string "C1"), ("class_name", .string "Account"),
      ("operations", .array (operations.map .string))]])]

theorem account_operations_callable :
    Document.issues (accountDocument ["deposit(n: integer)", "top up"]) = [] ∧
    ∃ c,
      (Model.ofDocument (accountDocument ["deposit(n: integer)", "top up"])).classes[0]? = some c ∧
      c.operations.map Operation.name = ["deposit", "top up"] ∧
      ∃ method : Operation → String, (c.operations.map method).Nodup ∧
        ∀ o ∈ c.operations, IsName o.name → CallsReach o.name (method o) := by
  have hnames :
      ((Model.ofDocument (accountDocument ["deposit(n: integer)", "top up"])).classes[0]?).map
        (fun c => c.operations.map Operation.name) = some ["deposit", "top up"] := by
    decide +kernel
  obtain ⟨c, hc, hnames⟩ := Option.map_eq_some_iff.1 hnames
  obtain ⟨before, after, -, method, -, hiff⟩ := operations_callable_iff _ ⟨[], []⟩ 0 c hc
  refine ⟨by decide +kernel, c, hc, hnames, method, hiff.2 ⟨?_, ?_⟩⟩
  · have hspelled : (c.operations.map fun o => spelling o.name) =
        (c.operations.map Operation.name).map spelling := by rw [List.map_map]; rfl
    rw [hspelled, hnames]
    decide +kernel
  · have hnone : ∀ name ∈ ["deposit", "top up"], name ∉ keywords := by decide +kernel
    exact fun o ho => hnone o.name (hnames ▸ List.mem_map_of_mem ho)

/-- Two operations of one name are one method. An operation with the name of a keyword is a method
of another name, which no call has. -/
theorem overloaded_operations_lost :
    Document.issues (accountDocument ["run()", "run(n: integer)"]) = [] ∧
    Document.issues (accountDocument ["class()"]) = [] ∧
    (∃ c, (Model.ofDocument (accountDocument ["run()", "run(n: integer)"])).classes[0]? = some c ∧
      ∃ o ∈ c.operations, ∃ other ∈ c.operations, o ≠ other ∧ ∀ symbols,
        (operationLines symbols c o).filterMap header? =
          (operationLines symbols c other).filterMap header?) ∧
    ∃ c, (Model.ofDocument (accountDocument ["class()"])).classes[0]? = some c ∧
      ∃ o ∈ c.operations, IsName o.name ∧
        (∀ symbols, (operationLines symbols c o).filterMap header? = ["class_"]) ∧
        ¬ CallsReach o.name "class_" := by
  have hrun : ((Model.ofDocument (accountDocument ["run()", "run(n: integer)"])).classes[0]?).map
      (fun c => c.operations.map fun o => (o.name, o.signature)) =
      some [("run", "run()"), ("run", "run(n: integer)")] := by decide +kernel
  have hclass : ((Model.ofDocument (accountDocument ["class()"])).classes[0]?).map
      (fun c => c.operations.map Operation.name) = some ["class"] := by decide +kernel
  obtain ⟨c, hc, hrun⟩ := Option.map_eq_some_iff.1 hrun
  obtain ⟨d, hd, hclass⟩ := Option.map_eq_some_iff.1 hclass
  obtain ⟨o, rest, hfirst, ho, hrest⟩ := List.map_eq_cons_iff.1 hrun
  obtain ⟨other, last, hsecond, hother, -⟩ := List.map_eq_cons_iff.1 hrest
  obtain ⟨k, others, hone, hk, -⟩ := List.map_eq_cons_iff.1 hclass
  have hname : o.name = other.name := (congrArg Prod.fst ho).trans (congrArg Prod.fst hother).symm
  have hcall : IsName k.name := by
    rw [hk]
    decide +kernel
  refine ⟨by decide +kernel, by decide +kernel,
    ⟨c, hc, o, ?_, other, ?_, fun heq => ?_, fun symbols => ?_⟩,
    d, hd, k, ?_, hcall, fun symbols => ?_, fun hcalls => ?_⟩
  · rw [hfirst]
    exact List.mem_cons_self
  · rw [hfirst, hsecond]
    simp
  · have hsignature : "run()" = "run(n: integer)" :=
      (congrArg Prod.snd ho).symm.trans ((congrArg Operation.signature heq).trans
        (congrArg Prod.snd hother))
    exact absurd hsignature (by decide)
  · rw [header?_operationLines, header?_operationLines, hname]
  · rw [hone]
    exact List.mem_cons_self
  · rw [header?_operationLines, hk]
    decide +kernel
  · rw [callsReach_iff hcall (List.all_eq_true.1 (by decide)), hk] at hcalls
    exact absurd hcalls (by decide)

end Python

end ExecutableUml
