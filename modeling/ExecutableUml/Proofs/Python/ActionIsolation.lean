import ExecutableUml.Proofs.Json.Fields
import ExecutableUml.Proofs.Lists
import ExecutableUml.Proofs.Python.ClassLookups

/-! Action code stays in its module. The action texts of a class go into the module of this class
and into no other one, and those of the functions go into theirs. So two models that are the same up
to these texts have projects that are the same up to one file and the notes on it. -/

namespace ExecutableUml

open ExecutableUml.Action

def Operation.withoutAction (o : Operation) : Operation := { o with action := "" }

def Transition.withoutAction (t : Transition) : Transition := { t with action := "" }

def StateMachine.withoutActions (m : StateMachine) : StateMachine :=
  { m with transitions := m.transitions.map Transition.withoutAction }

def Class.withoutActions (c : Class) : Class :=
  { c with
    operations := c.operations.map Operation.withoutAction
    stateMachine := c.stateMachine.map StateMachine.withoutActions }

namespace Model

def withoutActionsOf (k : ClassId) (m : Model) : Model :=
  { m with classes := m.classes.modify k Class.withoutActions }

def withoutFunctionActions (m : Model) : Model :=
  { m with functions := m.functions.map Operation.withoutAction }

def withoutActions (m : Model) : Model :=
  { m.withoutFunctionActions with classes := m.classes.map Class.withoutActions }

end Model

theorem StateMachine.withoutActions_idem (m : StateMachine) :
    m.withoutActions.withoutActions = m.withoutActions := by
  simp only [withoutActions, List.map_map]
  rfl

theorem Class.withoutActions_idem (c : Class) :
    c.withoutActions.withoutActions = c.withoutActions := by
  have hmachine : StateMachine.withoutActions ∘ StateMachine.withoutActions =
      StateMachine.withoutActions := funext StateMachine.withoutActions_idem
  simp only [withoutActions, List.map_map, Option.map_map, hmachine]
  rfl

namespace Model

theorem withoutActions_withoutActionsOf (k : ClassId) (m : Model) :
    (m.withoutActionsOf k).withoutActions = m.withoutActions := by
  rw [withoutActions, withoutActions, withoutActionsOf, map_modify Class.withoutActions_idem]
  rfl

theorem withoutActions_withoutFunctionActions (m : Model) :
    m.withoutFunctionActions.withoutActions = m.withoutActions := by
  simp only [withoutActions, withoutFunctionActions, List.map_map]
  rfl

theorem namesAt_withoutActions (m : Model) (id : ClassId) :
    m.withoutActions.namesAt id = m.namesAt id := by
  rw [namesAt, namesAt, withoutActions, List.getElem?_map, Option.map_map]
  rfl

end Model

theorem Action.ClassSymbols.ofClass_withoutActions (c : Class) :
    ofClass c.withoutActions = ofClass c := by
  simp only [ofClass, Class.withoutActions, List.map_map, Option.isSome_map]
  rfl

theorem Action.SymbolTable.ofModel_withoutActions (m : Model) :
    ofModel m.withoutActions = ofModel m := by
  have hassociation : ∀ a, ClassSymbols.ofAssociation m.withoutActions a =
      ClassSymbols.ofAssociation m a := by
    intro a
    rw [ClassSymbols.ofAssociation, ClassSymbols.ofAssociation,
      Model.keyLettersOf_congr (m.namesAt_withoutActions a.source),
      Model.keyLettersOf_congr (m.namesAt_withoutActions a.target)]
  have hclasses : (m.withoutActions.classes.map fun c =>
        (⟨[c.name, c.keyLetters, c.pyName, c.id], .ofClass c⟩ : SymbolEntry)) =
      m.classes.map fun c => ⟨[c.name, c.keyLetters, c.pyName, c.id], .ofClass c⟩ := by
    rw [Model.withoutActions, List.map_map]
    refine List.map_congr_left fun c _ => ?_
    rw [Function.comp_apply, ClassSymbols.ofClass_withoutActions]
    rfl
  rw [ofModel, ofModel, hclasses]
  simp only [hassociation]
  rfl

namespace Python

theorem keyLetterAliases_withoutActions (taken : List String) (cs : List Class) :
    keyLetterAliases taken (cs.map Class.withoutActions) = keyLetterAliases taken cs := by
  induction cs generalizing taken with
  | nil => rfl
  | cons c cs ih =>
    simp only [List.map_cons, keyLetterAliases, ih]
    rfl

theorem indexLines_withoutActions (m : Model) : indexLines m.withoutActions = indexLines m := by
  simp only [indexLines, Model.withoutActions, keyLetterAliases_withoutActions, List.map_map,
    List.filter_map]
  rfl

theorem suggestedDispatch_withoutActions (m : StateMachine) :
    suggestedDispatch m.withoutActions = suggestedDispatch m := by
  have hfirst : ((m.withoutActions.transitions.find? fun t =>
          t.source == m.withoutActions.initialState) <|> m.withoutActions.transitions.head?) =
      ((m.transitions.find? fun t => t.source == m.initialState) <|> m.transitions.head?).map
        Transition.withoutAction := by
    simp only [StateMachine.withoutActions, List.find?_map, List.head?_map,
      Option.orElse_eq_orElse, Option.orElse_eq_or, Option.map_or]
    rfl
  rw [suggestedDispatch, hfirst, suggestedDispatch]
  cases (m.transitions.find? fun t => t.source == m.initialState) <|> m.transitions.head? with
  | none => rfl
  | some t => rfl

theorem mainClass_withoutActions (m : Model) :
    mainClass m.withoutActions = (mainClass m).map Class.withoutActions := by
  have hmachine : (fun c : Class => c.stateMachine.isSome) ∘ Class.withoutActions =
      fun c => c.stateMachine.isSome := funext fun c => Option.isSome_map
  simp only [mainClass, Model.withoutActions, List.filter_map, List.find?_map, List.head?_map,
    Option.orElse_eq_orElse, Option.orElse_eq_or, Option.map_or, hmachine]
  rfl

theorem mainInstanceLines_withoutActions (m : Model) :
    mainInstanceLines m.withoutActions = mainInstanceLines m := by
  rw [mainInstanceLines, mainClass_withoutActions, mainInstanceLines]
  cases mainClass m with
  | none => rfl
  | some c =>
    have hdispatch : suggestedDispatch ∘ StateMachine.withoutActions = suggestedDispatch :=
      funext suggestedDispatch_withoutActions
    simp only [Option.map_some, Class.withoutActions, Option.map_map, hdispatch]
    rfl

theorem appLines_withoutActions (m : Model) : appLines m.withoutActions = appLines m := by
  rw [appLines, appLines, mainInstanceLines_withoutActions]
  simp only [Model.withoutActions, Model.withoutFunctionActions, List.isEmpty_map, List.filter_map,
    List.map_map]
  rfl

end Python

section TwoModels

variable {m m' : Model} (h : m.withoutActions = m'.withoutActions)
include h

theorem Model.eq_of_withoutActions {α : Type} (f : Model → α)
    (hf : ∀ m, f m.withoutActions = f m) : f m = f m' := by
  rw [← hf m, h, hf m']

theorem Model.readsAlike_of_withoutActions : m.ReadsAlike m' where
  generalizations := eq_of_withoutActions h Model.generalizations fun _ => rfl
  namesAt id _ :=
    eq_of_withoutActions h (Model.namesAt · id) fun m => m.namesAt_withoutActions id

end TwoModels

namespace Python

def classModules (m : Model) : List (String × Module) :=
  m.classes.mapIdx fun id c =>
    ("models/" ++ c.pyName ++ ".py", classModule m (SymbolTable.ofModel m) id c)

def functionModules (m : Model) : List (String × Module) :=
  if m.functions.isEmpty then []
  else [("functions.py", functionsModule m (SymbolTable.ofModel m))]

/-- All other modules of two models that are the same up to code are the same. -/
theorem modules_parts {m m' : Model} (h : m.withoutActions = m'.withoutActions) :
    ∃ support associations index entry,
      modules m = support ++ classModules m ++ associations ++ index ++ functionModules m ++ entry ∧
      modules m' =
        support ++ classModules m' ++ associations ++ index ++ functionModules m' ++ entry := by
  have hassociations : (m.associations.map fun a =>
        ("models/" ++ a.pyName ++ ".py", associationModule m a)) =
      m'.associations.map fun a => ("models/" ++ a.pyName ++ ".py", associationModule m' a) := by
    rw [← Model.eq_of_withoutActions h Model.associations fun _ => rfl]
    refine List.map_congr_left fun a ha => ?_
    rw [associationModule_congr (Model.readsAlike_of_withoutActions h) ha]
  have hindex : indexLines m = indexLines m' :=
    Model.eq_of_withoutActions h indexLines indexLines_withoutActions
  have hentry : appLines m = appLines m' :=
    Model.eq_of_withoutActions h appLines appLines_withoutActions
  refine ⟨_, _, _, _, rfl, ?_⟩
  rw [hassociations, hindex, hentry]
  rfl

theorem classModule_of_withoutActions {m m' : Model} (h : m.withoutActions = m'.withoutActions)
    (id : ClassId) {c : Class} (hc : c ∈ m.classes) :
    classModule m (SymbolTable.ofModel m) id c = classModule m' (SymbolTable.ofModel m') id c := by
  rw [Model.eq_of_withoutActions h SymbolTable.ofModel SymbolTable.ofModel_withoutActions,
    classModule_congr (Model.readsAlike_of_withoutActions h) _ id hc]

section OneClass

variable {m m' : Model} {k : ClassId} (h : m.withoutActionsOf k = m'.withoutActionsOf k)
include h

theorem withoutActions_of_class : m.withoutActions = m'.withoutActions := by
  rw [← m.withoutActions_withoutActionsOf k, h, m'.withoutActions_withoutActionsOf k]

theorem pyName_of_class {c c' : Class} (hc : m.classes[k]? = some c)
    (hc' : m'.classes[k]? = some c') : c.pyName = c'.pyName := by
  have hsame := Model.eq_of_withoutActions (withoutActions_of_class h) (Model.namesAt · k) fun m =>
    m.namesAt_withoutActions k
  rw [Model.namesAt, Model.namesAt, hc, hc'] at hsame
  exact (Prod.mk.inj (Option.some.inj hsame)).2

/-- The modules of the other classes are the same, at the same places. -/
theorem classModules_split {c c' : Class} (hc : m.classes[k]? = some c)
    (hc' : m'.classes[k]? = some c') :
    ∃ before after,
      classModules m = before ++ ("models/" ++ c.pyName ++ ".py",
        classModule m (SymbolTable.ofModel m) k c) :: after ∧
      classModules m' = before ++ ("models/" ++ c.pyName ++ ".py",
        classModule m' (SymbolTable.ofModel m') k c') :: after := by
  have hclasses : m.classes.modify k Class.withoutActions =
      m'.classes.modify k Class.withoutActions := congrArg Model.classes h
  have hname := pyName_of_class h hc hc'
  have hsame := withoutActions_of_class h
  obtain ⟨before, after, rfl, hm, hm'⟩ := split_of_modify_eq hclasses hc hc'
  rw [classModules, classModules, hm, hm']
  have hothers : ∀ (id : ClassId), ∀ d ∈ before ++ after,
      ("models/" ++ d.pyName ++ ".py", classModule m (SymbolTable.ofModel m) id d) =
        ("models/" ++ d.pyName ++ ".py", classModule m' (SymbolTable.ofModel m') id d) := by
    intro id d hd
    have hmem : d ∈ m.classes := by
      rw [hm, List.mem_append, List.mem_cons]
      exact (List.mem_append.1 hd).imp_right .inr
    rw [classModule_of_withoutActions hsame id hmem]
  rw [hname]
  have := mapIdx_split hothers c c'
  rw [hname] at this
  exact this

/-- The lists of all modules differ in the module of the class only. -/
theorem modules_split_class {c c' : Class} (hc : m.classes[k]? = some c)
    (hc' : m'.classes[k]? = some c') :
    ∃ before after,
      modules m = before ++ ("models/" ++ c.pyName ++ ".py",
        classModule m (SymbolTable.ofModel m) k c) :: after ∧
      modules m' = before ++ ("models/" ++ c.pyName ++ ".py",
        classModule m' (SymbolTable.ofModel m') k c') :: after := by
  have hfunctions : functionModules m = functionModules m' := by
    have hsymbols := Model.eq_of_withoutActions (withoutActions_of_class h) SymbolTable.ofModel
      SymbolTable.ofModel_withoutActions
    have hm : m.functions = m'.functions := (congrArg Model.functions h :)
    have hname : m.name = m'.name := (congrArg Model.name h :)
    rw [functionModules, functionModules, hsymbols, functionsModule, functionsModule, hm, hname]
  obtain ⟨support, associations, index, entry, hm, hm'⟩ := modules_parts (withoutActions_of_class h)
  obtain ⟨before, after, hclass, hclass'⟩ := classModules_split h hc hc'
  refine ⟨support ++ before, after ++ associations ++ index ++ functionModules m' ++ entry, ?_, ?_⟩
  · rw [hm, hclass, hfunctions]
    simp only [List.append_assoc, List.cons_append]
  · rw [hm', hclass']
    simp only [List.append_assoc, List.cons_append]

end OneClass

theorem notes_of_no_functions {m : Model} (symbols : SymbolTable)
    (hnone : m.functions.isEmpty = true) : (functionsModule m symbols).notes = [] := by
  rw [functionsModule, List.isEmpty_iff.1 hnone]
  rfl

section Functions

variable {m m' : Model} (h : m.withoutFunctionActions = m'.withoutFunctionActions)
include h

theorem withoutActions_of_functions : m.withoutActions = m'.withoutActions := by
  rw [← m.withoutActions_withoutFunctionActions, h, m'.withoutActions_withoutFunctionActions]

theorem classModules_of_functions : classModules m = classModules m' := by
  have hclasses : m.classes = m'.classes := (congrArg Model.classes h :)
  rw [classModules, classModules, ← hclasses, List.mapIdx_eq_mapIdx_iff]
  intro id hid
  rw [classModule_of_withoutActions (withoutActions_of_functions h) id (List.getElem_mem hid)]

theorem functions_isEmpty : m.functions.isEmpty = m'.functions.isEmpty :=
  Model.eq_of_withoutActions (withoutActions_of_functions h) (fun m => m.functions.isEmpty) fun _ =>
    List.isEmpty_map

/-- Models without functions have the same modules. -/
theorem modules_of_no_functions (hnone : m.functions.isEmpty = true) : modules m = modules m' := by
  obtain ⟨support, associations, index, entry, hm, hm'⟩ :=
    modules_parts (withoutActions_of_functions h)
  rw [hm, hm', classModules_of_functions h, functionModules, functionModules, if_pos hnone,
    if_pos (functions_isEmpty h ▸ hnone)]

/-- The lists of all modules differ in the module of the functions only. -/
theorem modules_split_functions (hsome : m.functions.isEmpty = false) :
    ∃ before after,
      modules m = before ++ ("functions.py", functionsModule m (SymbolTable.ofModel m)) :: after ∧
      modules m' =
        before ++ ("functions.py", functionsModule m' (SymbolTable.ofModel m')) :: after := by
  obtain ⟨support, associations, index, entry, hm, hm'⟩ :=
    modules_parts (withoutActions_of_functions h)
  have hsome' : m'.functions.isEmpty = false := functions_isEmpty h ▸ hsome
  refine ⟨support ++ classModules m' ++ associations ++ index, entry, ?_, ?_⟩
  · rw [hm, classModules_of_functions h, functionModules, hsome]
    simp
  · rw [hm', functionModules, hsome']
    simp

end Functions

namespace Project

/-- The projects have files at the same paths, the same text in each but one of them, and the same
notes in the same order but for those on this file. -/
structure AlikeBut (path : String) (own own' : List Note) (p p' : Project) : Prop where
  paths : p.files.map Prod.fst = p'.files.map Prod.fst
  texts : ∀ other, other ≠ path → p.files.lookup other = p'.files.lookup other
  notes : ∃ before after, p.notes = before ++ own ++ after ∧ p'.notes = before ++ own' ++ after

theorem AlikeBut.refl (path : String) (p : Project) : AlikeBut path [] [] p p where
  paths := rfl
  texts _ _ := rfl
  notes := ⟨p.notes, [], by simp, by simp⟩

theorem alikeBut_of_split {m m' : Model} {path : String} {x x' : Module}
    {before after : List (String × Module)} (hm : modules m = before ++ (path, x) :: after)
    (hm' : modules m' = before ++ (path, x') :: after) :
    AlikeBut path x.notes x'.notes (ofModel m) (ofModel m') where
  paths := by
    rw [ofModel, ofModel, hm, hm', Json.keys_sortFields, Json.keys_sortFields]
    simp
  texts := by
    intro other hother
    have hbeq : (other == path) = false := beq_false_of_ne hother
    rw [ofModel, ofModel, hm, hm', Json.lookup_sortFields, Json.lookup_sortFields]
    simp [List.lookup_append, List.lookup_cons, hbeq]
  notes := by
    refine ⟨before.flatMap fun f => f.2.notes, after.flatMap fun f => f.2.notes, ?_, ?_⟩
    · rw [ofModel, hm]
      simp
    · rw [ofModel, hm']
      simp

/-- Code stays in its module. If models are the same up to the action texts of the operations and
transitions of one class, their projects are the same up to the module of this class and the notes
on it. If they are the same up to the action texts of their functions, their projects are the same
up to the module of the functions and the notes on it. -/
theorem ofModel_isolates_actions (m m' : Model) :
    (∀ k c c', m.classes[k]? = some c → m'.classes[k]? = some c' →
      m.withoutActionsOf k = m'.withoutActionsOf k →
      AlikeBut ("models/" ++ c.pyName ++ ".py")
        (classModule m (SymbolTable.ofModel m) k c).notes
        (classModule m' (SymbolTable.ofModel m') k c').notes (ofModel m) (ofModel m')) ∧
    (m.withoutFunctionActions = m'.withoutFunctionActions →
      AlikeBut "functions.py" (functionsModule m (SymbolTable.ofModel m)).notes
        (functionsModule m' (SymbolTable.ofModel m')).notes (ofModel m) (ofModel m')) := by
  constructor
  · intro k c c' hc hc' h
    obtain ⟨before, after, hm, hm'⟩ := modules_split_class h hc hc'
    exact alikeBut_of_split hm hm'
  · intro h
    cases hsome : m.functions.isEmpty with
    | false =>
      obtain ⟨before, after, hm, hm'⟩ := modules_split_functions h hsome
      exact alikeBut_of_split hm hm'
    | true =>
      have hsame : ofModel m = ofModel m' := by
        rw [ofModel, ofModel, modules_of_no_functions h hsome]
      rw [notes_of_no_functions _ hsome, notes_of_no_functions _ (functions_isEmpty h ▸ hsome), hsame]
      exact .refl _ _

def pump (start : String) : Class where
  id := "p"
  name := "Pump"
  keyLetters := "PMP"
  pyName := "Pump"
  isExternal := false
  attributes := []
  operations := [⟨"start", "start()", [], start⟩]
  stateMachine := none
  superClass := none
  subClasses := []

/-- A plant of pumps, given the code that starts a pump and the code of a report. -/
def plant (start report : String) : Model where
  name := "Plant"
  classes := [pump start,
    { pump "x = 1;" with name := "Valve", keyLetters := "VLV", pyName := "Valve" }]
  relationships := []
  generalizations := []
  events := []
  functions := [⟨"report", "report()", [], report⟩]
  associations := []

/-- Code for a pump or a report that names an unknown class gives a note on its own module. -/
theorem plant_isolates_actions :
    AlikeBut "models/Pump.py" []
      [⟨"Pump.start.line1", .lateBoundClass, "class 'TNK' is resolved at run time"⟩]
      (ofModel (plant "x = 1;" "")) (ofModel (plant "create object instance t of TNK;" "")) ∧
    AlikeBut "functions.py" []
      [⟨"functions.report.line1", .lateBoundClass, "class 'TNK' is resolved at run time"⟩]
      (ofModel (plant "" "x = 1;")) (ofModel (plant "" "create object instance t of TNK;")) := by
  constructor
  · have h := (ofModel_isolates_actions (plant "x = 1;" "")
      (plant "create object instance t of TNK;" "")).1 0 (pump _) (pump _) rfl rfl rfl
    have hpath : "models/" ++ (pump "x = 1;").pyName ++ ".py" = "models/Pump.py" := by decide
    have hnone : (classModule (plant "x = 1;" "") (SymbolTable.ofModel (plant "x = 1;" "")) 0
        (pump "x = 1;")).notes = [] := by decide +kernel
    have hnotes : (classModule (plant "create object instance t of TNK;" "")
        (SymbolTable.ofModel (plant "create object instance t of TNK;" "")) 0
        (pump "create object instance t of TNK;")).notes =
          [⟨"Pump.start.line1", .lateBoundClass, "class 'TNK' is resolved at run time"⟩] := by
      decide +kernel
    rwa [hpath, hnone, hnotes] at h
  · have h := (ofModel_isolates_actions (plant "" "x = 1;")
      (plant "" "create object instance t of TNK;")).2 rfl
    have hnone : (functionsModule (plant "" "x = 1;")
        (SymbolTable.ofModel (plant "" "x = 1;"))).notes = [] := by decide +kernel
    have hnotes : (functionsModule (plant "" "create object instance t of TNK;")
        (SymbolTable.ofModel (plant "" "create object instance t of TNK;"))).notes =
          [⟨"functions.report.line1", .lateBoundClass, "class 'TNK' is resolved at run time"⟩] := by
      decide +kernel
    rwa [hnone, hnotes] at h

end Project

end Python

end ExecutableUml
