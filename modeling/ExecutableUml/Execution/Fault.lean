import ExecutableUml.Execution.Instance

/-! Why an operation of an executing model is refused. -/

namespace ExecutableUml.Execution

inductive Fault where
  | unknownClass (reference : String)
  | unknownInstance (id : InstanceId)
  | noStateMachine (id : InstanceId)
  | unknownBridge (entity : String)
  | unknownBridgeOperation (entity operation : String)
  | unknownFunction (name : String)
  | action (text : String)
deriving DecidableEq, Repr

def Fault.message : Fault → String
  | .unknownClass reference => "unknown class '" ++ reference ++ "'"
  | .unknownInstance id => "instance " ++ identityText id ++ " is not in the object store"
  | .noStateMachine id => "instance " ++ identityText id ++ " has no state machine"
  | .unknownBridge entity => "no bridge registered for '" ++ entity ++ "'"
  | .unknownBridgeOperation entity operation =>
    "bridge '" ++ entity ++ "' has no operation '" ++ operation ++ "'"
  | .unknownFunction name => "function '" ++ name ++ "' is not defined"
  | .action text => "action failed: " ++ text

end ExecutableUml.Execution
