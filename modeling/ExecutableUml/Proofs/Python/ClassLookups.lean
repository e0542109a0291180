import ExecutableUml.Proofs.Document.Handles
import ExecutableUml.Python.Project

/-! Where code generation looks classes up. It reads the names of the classes at the handles of the
model and nothing else, so two models with the same names there have the same modules. The handles
of the model of a document are all in range: classes that are put behind the last one are never
read. -/

namespace ExecutableUml

open ExecutableUml.Action

/-- What is read of a class that is looked up: the texts that refer to it and its name in the
code. -/
def Model.namesAt (m : Model) (id : ClassId) : Option (ClassNaming × String) :=
  (m.classes[id]?).map fun c => (c.toClassNaming, c.pyName)

section Names

variable {m m' : Model} {id : ClassId} (h : m.namesAt id = m'.namesAt id)
include h

theorem Model.read_congr (f : ClassNaming × String → String) :
    ((m.classes[id]?).map fun c => f (c.toClassNaming, c.pyName)).getD "" =
      ((m'.classes[id]?).map fun c => f (c.toClassNaming, c.pyName)).getD "" := by
  have hread := congrArg (Option.map f) h
  rw [namesAt, namesAt, Option.map_map, Option.map_map] at hread
  exact congrArg (Option.getD · "") hread

theorem Model.keyLettersOf_congr : m.keyLettersOf id = m'.keyLettersOf id :=
  read_congr h fun n => n.1.keyLetters

theorem Python.classNameOf_congr : classNameOf m id = classNameOf m' id :=
  Model.read_congr h fun n => n.1.name

theorem Python.pyNameOf_congr : pyNameOf m id = pyNameOf m' id :=
  Model.read_congr h Prod.snd

end Names

/-- The two models have the same pairs of supertypes and subtypes, and the same names at the handles
of the first one. -/
structure Model.ReadsAlike (m m' : Model) : Prop where
  generalizations : m.generalizations = m'.generalizations
  namesAt : ∀ id ∈ m.handles, m.namesAt id = m'.namesAt id

section Handles

variable {m : Model} {id : ClassId}

theorem Model.handle_of_class {c : Class} (hc : c ∈ m.classes)
    (h : id ∈ c.superClass.toList ++ c.subClasses) : id ∈ m.handles := by
  have hclass : id ∈ c.handles := by
    rw [Class.handles, List.append_assoc]
    exact List.mem_append_right _ h
  simp only [handles, List.mem_append, List.mem_flatMap]
  exact .inl (.inl (.inl (.inl ⟨c, hc, hclass⟩)))

theorem Model.handle_of_generalization {g : Generalization} (hg : g ∈ m.generalizations)
    (h : id ∈ g.handles) : id ∈ m.handles := by
  simp only [handles, List.mem_append, List.mem_flatMap]
  exact .inl (.inl (.inr ⟨g, hg, h⟩))

theorem Model.handle_of_association {a : AssociationClass} (ha : a ∈ m.associations)
    (h : id ∈ [a.source, a.target]) : id ∈ m.handles := by
  simp only [handles, List.mem_append, List.mem_flatMap]
  exact .inr ⟨a, ha, List.mem_append_left _ h⟩

end Handles

section Alike

variable {m m' : Model} (h : m.ReadsAlike m')
include h

theorem Action.ClassSymbols.ofAssociation_congr {a : AssociationClass} (ha : a ∈ m.associations) :
    ofAssociation m a = ofAssociation m' a := by
  have hsource := h.namesAt a.source (Model.handle_of_association ha (by simp))
  have htarget := h.namesAt a.target (Model.handle_of_association ha (by simp))
  rw [ofAssociation, ofAssociation, Model.keyLettersOf_congr hsource,
    Model.keyLettersOf_congr htarget]

namespace Python

theorem generalizationConstants_congr {c : Class} (hc : c ∈ m.classes) :
    generalizationConstants m c = generalizationConstants m' c := by
  have hname : ∀ id ∈ c.superClass.toList ++ c.subClasses, pyNameOf m id = pyNameOf m' id :=
    fun id hid => pyNameOf_congr (h.namesAt id (Model.handle_of_class hc hid))
  rw [List.forall_mem_append] at hname
  have hsubs : (c.subClasses.map fun s => stringLiteral (pyNameOf m s)) =
      c.subClasses.map fun s => stringLiteral (pyNameOf m' s) :=
    List.map_congr_left fun s hs => by rw [hname.2 s hs]
  rw [generalizationConstants, generalizationConstants, hsubs]
  cases hsuper : c.superClass with
  | none => rfl
  | some s =>
    have hs : pyNameOf m s = pyNameOf m' s := hname.1 s (by simp [hsuper])
    simp only [hs]

theorem supertypeMethod_congr (id : ClassId) {c : Class} (hc : c ∈ m.classes) :
    supertypeMethod m id c = supertypeMethod m' id c := by
  rw [supertypeMethod, supertypeMethod]
  cases hsuper : c.superClass with
  | none => rfl
  | some s =>
    have hhandle : s ∈ m.handles := Model.handle_of_class hc (by simp [hsuper])
    simp only [h.generalizations, pyNameOf_congr (h.namesAt s hhandle)]

theorem subtypeMethod_congr (id : ClassId) (c : Class) :
    subtypeMethod m id c = subtypeMethod m' id c := by
  have hpairs : ((m.generalizations.filter fun g => g.superClass == id).map fun g =>
        "(" ++ stringLiteral g.relId ++ ", " ++ stringLiteral (pyNameOf m g.subClass) ++ ")") =
      (m'.generalizations.filter fun g => g.superClass == id).map fun g =>
        "(" ++ stringLiteral g.relId ++ ", " ++ stringLiteral (pyNameOf m' g.subClass) ++ ")" := by
    rw [← h.generalizations]
    refine List.map_congr_left fun g hg => ?_
    have hhandle := Model.handle_of_generalization (List.mem_filter.1 hg).1 g.subClass_mem_handles
    rw [pyNameOf_congr (h.namesAt _ hhandle)]
  simp only [subtypeMethod, hpairs]

theorem classModule_congr (symbols : SymbolTable) (id : ClassId) {c : Class} (hc : c ∈ m.classes) :
    classModule m symbols id c = classModule m' symbols id c := by
  simp only [classModule, instanceClassModule, generalizationConstants_congr h hc,
    supertypeMethod_congr h id hc, subtypeMethod_congr h id c]

theorem associationModule_congr {a : AssociationClass} (ha : a ∈ m.associations) :
    associationModule m a = associationModule m' a := by
  have hsource := h.namesAt a.source (Model.handle_of_association ha (by simp))
  have htarget := h.namesAt a.target (Model.handle_of_association ha (by simp))
  simp only [associationModule, associationLines, associationHead, initializerBody, createLinkBody,
    endAttribute, getterName,
    Model.keyLettersOf_congr hsource, Model.keyLettersOf_congr htarget, classNameOf_congr hsource,
    classNameOf_congr htarget]

end Python

end Alike

def Model.lookingIn (arena : List Class) (m : Model) : Model := { m with classes := arena }

theorem Model.readsAlike_lookingIn {m : Model} {arena : List Class}
    (h : ∀ id ∈ m.handles, arena[id]? = m.classes[id]?) : m.ReadsAlike (m.lookingIn arena) where
  generalizations := rfl
  namesAt id hid := by
    rw [namesAt, namesAt, lookingIn, h id hid]

/-- The table of symbols of a model, with classes looked up in a list that may be another one than
its own. -/
def Action.SymbolTable.ofModelIn (arena : List Class) (m : Model) : SymbolTable :=
  ⟨m.classes.map (fun c => ⟨[c.name, c.keyLetters, c.pyName, c.id], .ofClass c⟩) ++
     m.associations.map (fun a =>
       ⟨[a.name, a.keyLetters, a.pyName], .ofAssociation (m.lookingIn arena) a⟩),
   m.events.map Event.name⟩

theorem Action.SymbolTable.ofModelIn_classes (m : Model) : ofModelIn m.classes m = ofModel m := rfl

theorem Action.SymbolTable.ofModelIn_eq {m : Model} {arena : List Class}
    (h : ∀ id ∈ m.handles, arena[id]? = m.classes[id]?) : ofModelIn arena m = ofModel m := by
  have hassociations : (m.associations.map fun a => (⟨[a.name, a.keyLetters, a.pyName],
        .ofAssociation (m.lookingIn arena) a⟩ : SymbolEntry)) =
      m.associations.map fun a => ⟨[a.name, a.keyLetters, a.pyName], .ofAssociation m a⟩ := by
    refine List.map_congr_left fun a ha => ?_
    rw [ClassSymbols.ofAssociation_congr (Model.readsAlike_lookingIn h) ha]
  rw [ofModelIn, ofModel, hassociations]

namespace Python

/-- The modules of a model, with classes looked up in a list that may be another one than its
own. -/
def modulesIn (arena : List Class) (m : Model) : List (String × Module) :=
  let symbols := SymbolTable.ofModelIn arena m
  supportModules.map (fun (path, lines) => (path, ⟨lines, []⟩)) ++
  m.classes.mapIdx (fun id c =>
    ("models/" ++ c.pyName ++ ".py", classModule (m.lookingIn arena) symbols id c)) ++
  m.associations.map (fun a =>
    ("models/" ++ a.pyName ++ ".py", associationModule (m.lookingIn arena) a)) ++
  [("models/__init__.py", ⟨indexLines m, []⟩)] ++
  (if m.functions.isEmpty then [] else [("functions.py", functionsModule m symbols)]) ++
  [("app.py", ⟨appLines m, []⟩)]

/-- Looked up in its own classes, the modules of a model are its own. -/
theorem modulesIn_classes (m : Model) : modulesIn m.classes m = modules m := rfl

/-- The modules of a model depend on the list of classes at its handles alone. -/
theorem modulesIn_eq {m : Model} {arena : List Class}
    (h : ∀ id ∈ m.handles, arena[id]? = m.classes[id]?) : modulesIn arena m = modules m := by
  have halike := Model.readsAlike_lookingIn h
  have hclasses : (m.classes.mapIdx fun id c => ("models/" ++ c.pyName ++ ".py",
        classModule (m.lookingIn arena) (SymbolTable.ofModel m) id c)) =
      m.classes.mapIdx fun id c => ("models/" ++ c.pyName ++ ".py",
        classModule m (SymbolTable.ofModel m) id c) := by
    apply List.ext_getElem
    · simp
    · intro i hi hi'
      rw [List.getElem_mapIdx, List.getElem_mapIdx,
        classModule_congr halike _ i (List.getElem_mem _)]
  have hassociations : (m.associations.map fun a =>
        ("models/" ++ a.pyName ++ ".py", associationModule (m.lookingIn arena) a)) =
      m.associations.map fun a => ("models/" ++ a.pyName ++ ".py", associationModule m a) := by
    refine List.map_congr_left fun a ha => ?_
    rw [associationModule_congr halike ha]
  simp only [modulesIn, modules, SymbolTable.ofModelIn_eq h, hclasses, hassociations]

end Python

open Document Python

/-- Every handle in the model of a document is the place of a class, and so is every handle by which
the name of a class is read while the model is made: for the class that stands for the links of a
relationship and for the identifier of a generalization. What is generated from a model is what its
own classes give, and from the model of a document it does not change with the classes that are put
behind the last one: nothing is looked up there. -/
theorem Model.ofDocument_lookups (doc : Json) :
    (∀ id ∈ (ofDocument doc).handles, id < (ofDocument doc).classes.length) ∧
    (∀ rel ∈ entries doc "relationships",
      ∀ id ∈ (LinkClass.ofEntry (Roster.ofDocument doc) rel).handles,
        id < (ofDocument doc).classes.length) ∧
    (∀ ends relId declaredBy g,
      Generalization.make (Roster.ofDocument doc) ends relId declaredBy = some g →
        ∀ id ∈ g.handles, id < (ofDocument doc).classes.length) ∧
    (∀ m : Model, SymbolTable.ofModelIn m.classes m = SymbolTable.ofModel m ∧
      modulesIn m.classes m = modules m) ∧
    ∀ more : List Class,
      SymbolTable.ofModelIn ((ofDocument doc).classes ++ more) (ofDocument doc) =
        SymbolTable.ofModel (ofDocument doc) ∧
      modulesIn ((ofDocument doc).classes ++ more) (ofDocument doc) = modules (ofDocument doc) := by
  refine ⟨fun id => handles_lt, ?_, ?_, fun m => ?_, fun more => ?_⟩
  · intro rel _ id hid
    rw [length_classes]
    exact LinkClass.handles_ofEntry hid
  · intro ends relId declaredBy g hg id hid
    rw [length_classes]
    exact Generalization.handles_make hg hid
  · exact ⟨SymbolTable.ofModelIn_classes m, modulesIn_classes m⟩
  · have hread : ∀ id ∈ (ofDocument doc).handles,
        ((ofDocument doc).classes ++ more)[id]? = (ofDocument doc).classes[id]? :=
      fun id hid => List.getElem?_append_left (handles_lt hid)
    exact ⟨SymbolTable.ofModelIn_eq hread, modulesIn_eq hread⟩

def pipeEntry : Json := .object [
  ("fromMultiplicity", .string "*"), ("from_class", .string "TK"), ("rel_id", .string "R1"),
  ("toMultiplicity", .string "1..*"), ("to_class", .string "Pipe")]

def tankDocument : Json := .object [
  ("events", .array [.object [("class_name", .string "Boiler"), ("event_name", .string "E1")]]),
  ("generalizations", .array [.object [("sub", .string "PI"), ("super", .string "TK")]]),
  ("model", .array [.null, .object [("KL", .string "TK"), ("class_name", .string "Tank")],
    .object [("KL", .string "PI"), ("class_name", .string "Pipe")]]),
  ("relationships", .array [pipeEntry])]

/-- The document is not valid. Its second class is the last one, and it is read as a subtype and as
one end of a relationship. -/
theorem tank_lookups :
    issues tankDocument ≠ [] ∧
    (1 ∈ (Model.ofDocument tankDocument).handles ∧
      1 < (Model.ofDocument tankDocument).classes.length) ∧
    (1 ∈ (LinkClass.ofEntry (Roster.ofDocument tankDocument) pipeEntry).handles ∧
      1 < (Model.ofDocument tankDocument).classes.length) ∧
    modulesIn ((Model.ofDocument tankDocument).classes ++ (Model.ofDocument tankDocument).classes)
      (Model.ofDocument tankDocument) = modules (Model.ofDocument tankDocument) := by
  obtain ⟨hstored, hlinks, -, -, hmore⟩ := Model.ofDocument_lookups tankDocument
  have hissues : issues tankDocument ≠ [] := by decide +kernel
  have hhandle : 1 ∈ (Model.ofDocument tankDocument).handles := by decide +kernel
  have hentry : pipeEntry ∈ entries tankDocument "relationships" := by
    have heq : entries tankDocument "relationships" = [pipeEntry] := rfl
    rw [heq]
    exact List.mem_singleton_self _
  have hlink : 1 ∈ (LinkClass.ofEntry (Roster.ofDocument tankDocument) pipeEntry).handles := by
    decide +kernel
  exact ⟨hissues, ⟨hhandle, hstored 1 hhandle⟩, ⟨hlink, hlinks pipeEntry hentry 1 hlink⟩,
    (hmore _).2⟩

end ExecutableUml
