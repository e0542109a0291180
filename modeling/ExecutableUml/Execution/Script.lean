import ExecutableUml.Execution.Run

/-! Scripts: model code as data. A script is a list of commands that stops at its first fault; an
action's script has the instance it acts for as its owner. -/

namespace ExecutableUml.Execution

namespace Script

inductive Guard where
  | payloadHas (key : String)
  | attributeAtLeast (name : String) (bound : Int)
  | attributeIs (name : String) (value : Json)
  | constant (holds : Bool)

/-- Whether a condition holds. An attribute that is missing or no 64-bit integer is below every
bound. -/
def Guard.holds {L : Language} (i : Instance L) (payload : Payload) : Guard → Bool
  | .payloadHas key => (payload.lookup key).isSome
  | .attributeAtLeast name bound =>
    ((i.attribute? name).bind Json.int64?).any fun n => decide (bound ≤ n)
  | .attributeIs name value => (i.attribute? name).any value.same
  | .constant holds => holds

inductive Command where
  | log (text : String)
  | fail (text : String)
  | create (reference : String)
  | call (function : String) (arguments : Payload)
  | bridge (entity operation : String) (arguments : Payload)
  | set (name : String) (value : Json)
  | add (name key : String)
  | dispatch (event : String) (payload : Payload)
  | linkNew (relationship reference : String)
  | force (state : String)
  | send (name : String)
  | deleteSelf
  | skip

inductive Result where
  | value (value : Json)
  | argument (key : String)
  | count (reference : String)

structure Routine where
  body : List Command := []
  result : Result := .value .null

end Script

open Script

/-- The language whose code is scripts. -/
abbrev scripts : Language := ⟨Script.Guard, List Script.Command, Script.Routine⟩

namespace Script

/-- The integer that a value counts as in a sum. -/
def summand (value? : Option Json) : Int := (value?.bind Json.int64?).getD 0

/-- The sum of two integers as a signed 64-bit integer. -/
def wrappedSum (a b : Int) : Int := (a + b).bmod (Nat.pow 2 64)

/-- The mark of a text, with the state that the owner is in. -/
def mark (d : Domain scripts) (owner : Option InstanceId) (text : String) : String :=
  text ++ "@" ++ ((owner.bind d.instance?).bind Instance.state?).getD ""

/-- A command on the instance that the script acts for. -/
def Command.forOwner (owner : InstanceId) (payload : Payload) : Command → Procedure scripts Unit
  | .set name value => Procedure.request (.setAttribute owner name value)
  | .add name key => do
    let d ← Procedure.request .observe
    let held := (d.instance? owner).bind (·.attribute? name)
    let sum := wrappedSum (summand held) (summand (payload.lookup key))
    Procedure.request (.setAttribute owner name (.int sum))
  | .dispatch event payload => do
    let _ ← Procedure.request (.dispatch ⟨owner, event, payload⟩)
  | .linkNew relationship reference => do
    let new ← Procedure.request (.create reference [])
    let _ ← Procedure.request (.relate relationship owner new)
  | .force state => Procedure.request (.forceState owner state)
  | .send name => Procedure.request (.send owner name payload)
  | .deleteSelf => do
    let _ ← Procedure.request (.delete owner)
  | _ => pure ()

/-- What a command does. Commands on the owner do nothing in a script without one. -/
def Command.procedure (owner : Option InstanceId) (payload : Payload) :
    Command → Procedure scripts Unit
  | .log text => do
    let d ← Procedure.request .observe
    Procedure.request (.mark (mark d owner text))
  | .fail text => Procedure.fail (.action text)
  | .create reference => do
    let _ ← Procedure.request (.create reference [])
  | .call function arguments => do
    let _ ← Procedure.request (.call function arguments)
  | .bridge entity operation arguments => do
    let _ ← Procedure.request (.bridge entity operation arguments)
  | command =>
    match owner with
    | none => pure ()
    | some owner => command.forOwner owner payload

def body (owner : Option InstanceId) (payload : Payload) : List Command → Procedure scripts Unit
  | [] => pure ()
  | command :: rest => do
    command.procedure owner payload
    body owner payload rest

def Result.procedure (arguments : Payload) : Result → Procedure scripts Json
  | .value v => pure v
  | .argument key => pure ((arguments.lookup key).getD .null)
  | .count reference => do
    let d ← Procedure.request .observe
    return .nat (d.extent reference).length

/-- What scripts do. -/
def meaning : Meaning scripts where
  guard condition i payload := condition.holds i payload
  action commands owner payload := body (some owner) payload commands
  routine routine arguments := do
    body none arguments routine.body
    routine.result.procedure arguments

end Script

end ExecutableUml.Execution
