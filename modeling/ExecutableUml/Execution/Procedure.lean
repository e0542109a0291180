import ExecutableUml.Execution.Domain

/-! Model code. A procedure asks the executing model for one thing after another and may go on as
the answers say; it ends with a result or a fault. -/

namespace ExecutableUml.Execution

/-- What became of an event. -/
inductive Outcome where
  | transitioned (source target : String)
  | ignored (state : String)
  | rejected (state : String)
deriving DecidableEq, Repr

/-- What code can ask of the model that executes it. -/
inductive Request (L : Language) where
  | observe
  | mark (text : String)
  | registerClass (definition : ClassDefinition L)
  | registerFunction (name : String) (routine : L.Routine)
  | registerBridge (entity : String) (bridge : Bridge L)
  | create (reference : String) (attributes : Payload)
  | delete (id : InstanceId)
  | setAttribute (id : InstanceId) (name : String) (value : Json)
  | relate (relationship : String) (a b : InstanceId)
  | relateAll (relationship : String) (pairs : List (InstanceId × InstanceId))
  | unrelate (relationship : String) (a b : InstanceId)
  | dispatch (signal : Signal)
  | forceState (id : InstanceId) (state : String)
  | send (target : InstanceId) (name : String) (payload : Payload)
  | startTimer (signal : Signal)
  | cancelTimer (id : TimerId)
  | cancelAllTimers
  | expireTimer (id : TimerId)
  | freeze (instant : Instant)
  | call (function : String) (arguments : Payload)
  | bridge (entity operation : String) (arguments : Payload)
  | report (context : String) (fault : Fault)
  | reset

/-- What a request that succeeds is answered with. -/
abbrev Request.Answer {L : Language} : Request L → Type
  | .observe => Domain L
  | .create .. => InstanceId
  | .delete _ | .relate .. | .unrelate .. | .cancelTimer _ | .expireTimer _ => Bool
  | .relateAll .. | .cancelAllTimers => Nat
  | .dispatch _ => Outcome
  | .startTimer _ => TimerId
  | .call .. | .bridge .. => Json
  | .mark _ | .registerClass _ | .registerFunction .. | .registerBridge .. | .setAttribute ..
  | .forceState .. | .send .. | .freeze _ | .report .. | .reset => Unit

inductive Procedure (L : Language) (α : Type) where
  | done (result : Except Fault α)
  | ask (request : Request L) (next : Except Fault request.Answer → Procedure L α)

namespace Procedure

variable {L : Language} {α β : Type}

/-- Goes on with the result of the first procedure; its fault ends both. -/
def andThen : Procedure L α → (α → Procedure L β) → Procedure L β
  | .done (.ok a), next => next a
  | .done (.error fault), _ => .done (.error fault)
  | .ask request continue', next => .ask request fun answer => (continue' answer).andThen next

instance : Monad (Procedure L) where
  pure a := .done (.ok a)
  bind := andThen

/-- One request, whose fault is the fault of the procedure. -/
def request (r : Request L) : Procedure L r.Answer := .ask r .done

def fail (fault : Fault) : Procedure L α := .done (.error fault)

end Procedure

/-- What the code of a language does. A guard looks at an instance and the data of the event, and
changes nothing. -/
structure Meaning (L : Language) where
  guard : L.Guard → Instance L → Payload → Bool
  action : L.Action → InstanceId → Payload → Procedure L Unit
  routine : L.Routine → Payload → Procedure L Json

end ExecutableUml.Execution
