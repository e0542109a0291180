import ExecutableUml.Json.Value
import ExecutableUml.Model.DataType

/-! The model that a document describes: classes with attributes, operations and state machines,
relationships, generalizations, events and functions. A class is referred to by its place in the
list of classes. -/

namespace ExecutableUml

open Text

/-- Place of a class in the list of classes. -/
abbrev ClassId := Nat

structure Attribute where
  name : String
  type : DataType
  defaultValue : Option Json
  relatedClass : Option ClassId
  relationshipId : Option String
deriving Repr

/-- An operation of a class, or a function of the model. -/
structure Operation where
  name : String
  signature : String
  parameters : List Parameter
  action : String
deriving DecidableEq, Repr

structure State where
  id : String
  name : String
deriving DecidableEq, Repr

structure Transition where
  source : String
  event : String
  eventSignature : String
  eventParameters : List Parameter
  guard : Option String
  action : String
  target : String
deriving DecidableEq, Repr

structure StateMachine where
  initialState : String
  states : List State
  transitions : List Transition
deriving DecidableEq, Repr

namespace StateMachine

def hasState (m : StateMachine) (name : String) : Bool := m.states.any fun s => s.name == name

/-- The state that the first transition on the event leaves. -/
def originOf (m : StateMachine) (event : String) : Option String :=
  (m.transitions.find? fun t => t.event == event).map Transition.source

/-- Every event of a transition with the state that its first transition leaves, in the order of
the event names. -/
def eventOrigins (m : StateMachine) : List (String × String) :=
  m.transitions.foldl (fun origins t =>
    if origins.any fun o => o.1 == t.event then origins
    else Json.insertField t.event t.source origins) []

end StateMachine

/-- The three texts by which a class is referred to. -/
structure ClassNaming where
  id : String
  name : String
  keyLetters : String
deriving DecidableEq, Repr

namespace ClassNaming

/-- Whether a lower case text is the id, the name or the key letters. -/
def isNamed (c : ClassNaming) (lowered : String) : Bool :=
  lower c.id == lowered || lower c.name == lowered || lower c.keyLetters == lowered

/-- The first class with the given id, name or key letters, in any case. -/
def resolve (names : List ClassNaming) (reference : String) : Option ClassId :=
  let wanted := lower (trimmed reference)
  if wanted.isEmpty then none else names.findIdx? fun c => c.isNamed wanted

end ClassNaming

structure Class extends ClassNaming where
  pyName : String
  isExternal : Bool
  attributes : List Attribute
  operations : List Operation
  stateMachine : Option StateMachine
  superClass : Option ClassId
  subClasses : List ClassId
deriving Repr

namespace Class

def attribute? (c : Class) (name : String) : Option Attribute :=
  c.attributes.find? fun a => a.name == name

def operation? (c : Class) (name : String) : Option Operation :=
  c.operations.find? fun o => o.name == name

end Class

structure Event where
  name : String
  owner : Option ClassId
  parameters : List Parameter
deriving DecidableEq, Repr

/-- An event of the given name up to ASCII case; one that the class owns goes first. -/
def Event.named (events : List Event) (name : String) (owner : Option ClassId) : Option Event :=
  let candidates := events.filter fun e => sameUpToAsciiCase e.name name
  (candidates.find? fun e => e.owner.isSome && e.owner == owner) <|> candidates.head?

/-- Multiplicity text that means "many". -/
def isMany (multiplicity : String) : Bool :=
  let s := (lower multiplicity).toList
  occursIn "star".toList s || s.contains '*'

structure Relationship where
  relId : String
  source : Option ClassId
  target : Option ClassId
  sourceMultiplicity : String
  targetMultiplicity : String
  isGeneralization : Bool
  association : Option String
deriving DecidableEq, Repr

def Relationship.isManyToMany (r : Relationship) : Bool :=
  isMany r.sourceMultiplicity && isMany r.targetMultiplicity

inductive GeneralizationSource where
  | explicit
  | relationship
deriving DecidableEq, Repr

structure Generalization where
  relId : String
  superClass : ClassId
  subClass : ClassId
  declaredBy : GeneralizationSource
deriving DecidableEq, Repr

/-- The class that stands for the links of a many-to-many relationship. -/
structure AssociationClass where
  name : String
  pyName : String
  keyLetters : String
  relId : String
  source : ClassId
  target : ClassId
  attributes : List Attribute
deriving Repr

structure Model where
  name : String
  classes : List Class
  relationships : List Relationship
  generalizations : List Generalization
  events : List Event
  functions : List Operation
  associations : List AssociationClass
deriving Repr

namespace Model

def resolveClass (m : Model) (reference : String) : Option ClassId :=
  ClassNaming.resolve (m.classes.map Class.toClassNaming) reference

def event? (m : Model) (name : String) (owner : Option ClassId) : Option Event :=
  Event.named m.events name owner

def relationship? (m : Model) (relId : String) : Option Relationship :=
  m.relationships.find? fun r => sameUpToAsciiCase r.relId relId

def keyLettersOf (m : Model) (id : ClassId) : String :=
  ((m.classes[id]?).map fun c => c.keyLetters).getD ""

end Model

end ExecutableUml
