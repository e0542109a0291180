import ExecutableUml.Distinct
import ExecutableUml.Document.Fields
import ExecutableUml.Python.Name

/-! The model that a document describes. Every document has one: what is missing or malformed is
left out. -/

namespace ExecutableUml

open Text

def Json.isObject (value : Json) : Bool := value.fields?.isSome

namespace Document

/-- Items of a list field that are objects. -/
def entries (entry : Json) (key : String) : List Json := (items entry key).filter Json.isObject

def classEntries (doc : Json) : List Json := (classes doc).filter Json.isObject

end Document

open Document

def ClassNaming.ofEntry (entry : Json) : ClassNaming :=
  let name := (text entry ["class_name"]).getD ""
  ⟨(text entry ["class_id"]).getD name, name, (text entry ["KL"]).getD name⟩

/-- How classes are referred to in the whole document. -/
abbrev Roster := List ClassNaming

namespace Roster

def resolve (names : Roster) (reference : String) : Option ClassId :=
  ClassNaming.resolve names reference

/-- The class that one of the spellings of a field refers to. -/
def field (names : Roster) (entry : Json) (keys : List String) : Option ClassId :=
  (text entry keys).bind names.resolve

def name (names : Roster) (id : ClassId) : String := ((names[id]?).map ClassNaming.name).getD ""

def idText (names : Roster) (id : ClassId) : String := ((names[id]?).map ClassNaming.id).getD ""

end Roster

def Event.ofEntry (names : Roster) (entry : Json) : Option Event := do
  let name ← text entry ["event_name"]
  return ⟨name, names.field entry ["class_id"], ((entry.get? "parameters").map Document.parameters).getD []⟩

def Attribute.ofEntry (names : Roster) (entry : Json) : Attribute where
  name := (text entry ["attribute_name"]).getD ""
  type := ((text entry ["data_type"]).map DataType.parse).getD .any
  defaultValue := (entry.get? "default_value").filter fun v => !v.isNull
  relatedClass := names.field entry ["related_class_id", "related_class_name"]
  relationshipId := text entry ["relationship_id"]

/-- An operation or function, given by its signature or by an object. -/
def Operation.ofEntry (entry : Json) : Option Operation := do
  let signature ← callableSignature entry
  return ⟨(splitSignature signature).1, signature, callableParameters entry,
    actionText (entry.get? "action")⟩

def State.ofRow (row : Json) : Option State := do
  let name ← text row ["state_name"]
  return ⟨(text row ["state_id"]).getD name, name⟩

/-- The transitions of a row: one for each of its events. Without a next state the machine stays. -/
def Transition.ofRow (events : List Event) (owner : ClassId) (row : Json) : List Transition :=
  match text row ["state_name"] with
  | none => []
  | some source =>
    (stateEvents row).filterMap fun signature =>
      let event := eventName signature
      if event.isEmpty then none
      else some {
        source
        event
        eventSignature := signature
        eventParameters := ((Event.named events event (some owner)).map Event.parameters).getD []
        guard := none
        action := actionText (row.get? "action")
        target := (text row ["next_state"]).getD source }

/-- Two rows with one effect are one transition. -/
def Transition.sameEffect (a b : Transition) : Bool :=
  a.source == b.source && a.event == b.event && a.target == b.target && a.action == b.action

/-- The state that an attribute `currentState` starts with, if there is one. -/
def persistedState (entry : Json) : Option String := do
  let a ← (items entry "attributes").find? fun a => text a ["attribute_name"] == some "currentState"
  scalarText (← a.get? "default_value")

def StateMachine.ofEntry (events : List Event) (owner : ClassId) (entry : Json) :
    Option StateMachine :=
  let rows := entries entry "states"
  if rows.isEmpty then none
  else
    let states := distinct (fun (a b : State) => a.name == b.name) (rows.filterMap State.ofRow)
    some {
      initialState :=
        ((persistedState entry) <|> states.head?.map State.name).getD ""
      states
      transitions := distinct Transition.sameEffect (rows.flatMap (Transition.ofRow events owner)) }

def Generalization.make (names : Roster) (ends : Option String × Option String)
    (relId : Option String) (declaredBy : GeneralizationSource) : Option Generalization := do
  let superClass ← names.resolve (← ends.1)
  let subClass ← names.resolve (← ends.2)
  if superClass = subClass then none
  else some {
    relId := relId.getD ("GEN_" ++ names.idText superClass ++ "_" ++ names.idText subClass)
    superClass
    subClass
    declaredBy }

def Generalization.explicit (names : Roster) (entry : Json) : Option Generalization :=
  make names (text entry superKeys, text entry subKeys) (text entry ["rel_id", "relId", "id"])
    .explicit

def Generalization.ofRelationship (names : Roster) (entry : Json) : Option Generalization :=
  if isGeneralization entry then
    make names (generalizationEnds entry) (text entry relIdKeys) .relationship
  else none

def Generalization.samePair (a b : Generalization) : Bool :=
  a.superClass == b.superClass && a.subClass == b.subClass

/-- All pairs, those of the list of generalizations first, each once. -/
def Generalization.ofDocument (names : Roster) (doc : Json) : List Generalization :=
  distinct Generalization.samePair
    ((items doc "generalizations").filterMap (Generalization.explicit names) ++
     (entries doc "relationships").filterMap (Generalization.ofRelationship names))

/-- A relationship without its association class. -/
def Relationship.ofEntry (names : Roster) (entry : Json) : Relationship where
  relId := (text entry relIdKeys).getD ""
  source := names.field entry fromKeys
  target := names.field entry toKeys
  sourceMultiplicity :=
    if Document.isGeneralization entry then "" else (text entry fromMultiplicityKeys).getD ""
  targetMultiplicity :=
    if Document.isGeneralization entry then "" else (text entry toMultiplicityKeys).getD ""
  isGeneralization := Document.isGeneralization entry
  association := none

/-- What stands for the links of a many-to-many relationship: a class that the entry names, or one
made for it when both ends are known. -/
inductive LinkClass where
  | none
  | named (id : ClassId)
  | made (source target : ClassId)
deriving DecidableEq, Repr

def LinkClass.ofEntry (names : Roster) (entry : Json) : LinkClass :=
  let r := Relationship.ofEntry names entry
  if r.isManyToMany then
    match names.field entry associationKeys, r.source, r.target with
    | some id, _, _ => .named id
    | Option.none, some source, some target => .made source target
    | _, _, _ => .none
  else .none

/-- The name of a class made for a relationship. -/
def associationName (names : Roster) (relId : String) (source target : ClassId) : String :=
  names.name source ++ "_" ++ names.name target ++ "_" ++ relId

def Relationship.withAssociation (names : Roster) (entry : Json) : Relationship :=
  let r := ofEntry names entry
  match LinkClass.ofEntry names entry with
  | .none => r
  | .named id => { r with association := some (names.name id) }
  | .made source target => { r with association := some (associationName names r.relId source target) }

def AssociationClass.ofEntry (names : Roster) (entry : Json) : Option AssociationClass :=
  let relId := (text entry relIdKeys).getD ""
  match LinkClass.ofEntry names entry with
  | .made source target =>
    let name := associationName names relId source target
    some {
      name
      pyName := ""
      keyLetters := name
      relId
      source
      target
      attributes := (entries entry "association_attributes").map (Attribute.ofEntry names) }
  | _ => none

/-- A class by itself; its place among the others comes with the generalizations. -/
def Class.ofEntry (names : Roster) (events : List Event) (pyNames : List String) (id : ClassId)
    (entry : Json) : Class where
  toClassNaming := ClassNaming.ofEntry entry
  pyName := (pyNames[id]?).getD ""
  isExternal := flag entry "is_external"
  attributes := (entries entry "attributes").map (Attribute.ofEntry names)
  operations := (items entry "operations").filterMap Operation.ofEntry
  stateMachine := StateMachine.ofEntry events id entry
  superClass := none
  subClasses := []

/-- Links the two classes of a pair. A subtype keeps its first supertype; a second one is left
out. -/
def Generalization.link (classes : List Class) (g : Generalization) : List Class :=
  if (classes[g.subClass]?.bind Class.superClass).isSome then classes
  else
    (classes.modify g.subClass fun c => { c with superClass := some g.superClass }).modify
      g.superClass fun c =>
        if c.subClasses.contains g.subClass then c
        else { c with subClasses := c.subClasses ++ [g.subClass] }

def Generalization.wire (gs : List Generalization) (classes : List Class) : List Class :=
  gs.foldl link classes

/-- How the classes of a document are referred to. -/
def Roster.ofDocument (doc : Json) : Roster := (classEntries doc).map ClassNaming.ofEntry

def Model.ofDocument (doc : Json) : Model :=
  let names := Roster.ofDocument doc
  let events := (entries doc "events").filterMap (Event.ofEntry names)
  let gs := Generalization.ofDocument names doc
  let associations := (entries doc "relationships").filterMap (AssociationClass.ofEntry names)
  let pyNames := Python.distinctNames
    (names.map ClassNaming.name ++ associations.map AssociationClass.name)
  { name := modelName doc
    classes :=
      Generalization.wire gs ((classEntries doc).mapIdx (Class.ofEntry names events pyNames))
    relationships := (entries doc "relationships").map (Relationship.withAssociation names)
    generalizations := gs
    events
    functions := (items doc "functions").filterMap Operation.ofEntry
    associations := associations.mapIdx fun i a =>
      { a with pyName := (pyNames[names.length + i]?).getD "" } }

end ExecutableUml
