import ExecutableUml.Json.Value
import ExecutableUml.Text.Case
import ExecutableUml.Execution.Link
import ExecutableUml.Execution.Table

/-! Instances of model classes: attributes, and a state machine if the class has one. -/

namespace ExecutableUml.Execution

open Text

/-- Values by name, sorted by the names. -/
abbrev Payload := List (String × Json)

/-- A transition that was taken. -/
structure Passage where
  source : String
  event : String
  target : String
deriving DecidableEq, Repr

structure Machine (L : Language) where
  table : TransitionTable L
  current : String
  history : List Passage := []

namespace Machine

variable {L : Language}

/-- The machine after the passage `event` to `target`. -/
def advance (m : Machine L) (event target : String) : Machine L :=
  { m with current := target, history := m.history ++ [⟨m.current, event, target⟩] }

def text (m : Machine L) : String :=
  "StateMachine \x7b current: " ++ escaped m.current ++ ", transitions: " ++
    toString m.table.size ++ " \x7d"

end Machine

/-- The attribute that shows the current state. -/
def stateAttribute : String := "currentState"

structure Instance (L : Language) where
  id : InstanceId
  className : String
  keyLetters : String
  attributes : Payload
  machine : Option (Machine L)

def identityText (id : InstanceId) : String := "#" ++ toString id

namespace Instance

variable {L : Language}

def text (i : Instance L) : String := "[" ++ i.keyLetters ++ ":" ++ toString i.id ++ "]"

def attribute? (i : Instance L) (name : String) : Option Json := i.attributes.lookup name

def setAttribute (name : String) (value : Json) (i : Instance L) : Instance L :=
  { i with attributes := Json.insertField name value i.attributes }

def state? (i : Instance L) : Option String := i.machine.map (·.current)

/-- Replaces the machine and shows its state. -/
def withMachine (m : Machine L) (i : Instance L) : Instance L :=
  { i.setAttribute stateAttribute (.string m.current) with machine := some m }

/-- Moves the machine to a state, whatever its table holds and without a passage. -/
def force (state : String) (i : Instance L) : Instance L :=
  match i.machine with
  | none => i
  | some m => i.withMachine { m with current := state }

end Instance

/-- How a class's machines start. -/
structure Lifecycle (L : Language) where
  initialState : String
  table : TransitionTable L

structure ClassDefinition (L : Language) where
  name : String
  keyLetters : String
  attributes : Payload := []
  lifecycle : Option (Lifecycle L) := none
  isAssociation : Bool := false

namespace ClassDefinition

variable {L : Language}

def answersTo (c : ClassDefinition L) (reference : String) : Bool :=
  sameUpToAsciiCase c.name reference || sameUpToAsciiCase c.keyLetters reference

/-- The values `given` go before the class's own; the state attribute always tells the state. -/
def instantiate (c : ClassDefinition L) (id : InstanceId) (given : Payload) : Instance L :=
  let bare : Instance L :=
    { id, className := c.name, keyLetters := c.keyLetters, machine := none
      attributes := given.foldl (fun values field => Json.insertField field.1 field.2 values)
        c.attributes }
  match c.lifecycle with
  | none => bare
  | some l => bare.withMachine { table := l.table, current := l.initialState }

end ClassDefinition

end ExecutableUml.Execution
