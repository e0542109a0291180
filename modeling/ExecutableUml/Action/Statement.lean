/-! Statements of the action language. Expressions inside a statement stay text. -/

namespace ExecutableUml.Action

inductive Cardinality where
  | any
  | one
  | many
deriving DecidableEq, Repr

/-- One step of a navigation: the class it leads to and the relationship it crosses. -/
structure Hop where
  className : String
  relId : String
deriving DecidableEq, Repr

structure Argument where
  name : Option String
  value : String
deriving DecidableEq, Repr

inductive AssignTarget where
  | variable (name : String)
  | attribute (object name : String)
deriving DecidableEq, Repr

inductive Statement where
  | comment (text : String)
  | ifBegin (condition : String)
  | elseIf (condition : String)
  | elseBegin
  | ifEnd
  | forEach (var collection : String)
  | forEnd
  | whileBegin (condition : String)
  | whileEnd
  | breakLoop
  | continueLoop
  | returnValue (value : Option String)
  | selectInstances (cardinality : Cardinality) (var classRef : String) (condition : Option String)
  | selectRelated (cardinality : Cardinality) (var source : String) (hops : List Hop)
      (condition : Option String)
  | createObject (var classRef : String)
  | deleteObject (var : String)
  | relate (source target relId : String) (link : Option String)
  | unrelate (source target relId : String) (link : Option String)
  | unrelateNavigated (source from_ : String) (hop : Hop) (relId : String)
  | send (message : String) (args : List Argument) (target : String)
  | createEvent (var : String) (keyLetters : Option String) (label : String) (args : List Argument)
      (target : String)
  | generate (keyLetters : Option String) (event : String) (args : List Argument) (target : String)
  | generateInstance (var : String)
  | bridgeCall (entity operation : String) (args : List Argument)
  | functionCall (name : String) (args : List Argument)
  | methodCall (object method : String) (args : List Argument)
  | assign (target : AssignTarget) (value : String)
  | unrecognized (line : String)
deriving DecidableEq, Repr

namespace Statement

def opensBlock : Statement → Bool
  | .ifBegin _ => true
  | .forEach _ _ => true
  | .whileBegin _ => true
  | _ => false

/-- The relationships that the statement crosses, in the order in which it names them. -/
def relationshipIds : Statement → List String
  | .selectRelated _ _ _ hops _ => hops.map Hop.relId
  | .relate _ _ relId _ => [relId]
  | .unrelate _ _ relId _ => [relId]
  | .unrelateNavigated _ _ hop relId => [hop.relId, relId]
  | _ => []

end Statement

end ExecutableUml.Action
