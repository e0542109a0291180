import ExecutableUml.Json.Printer
import ExecutableUml.Execution.Procedure

/-! Executing model code. A transition is complete before its action runs, and the action's fault
is recorded and not passed on. Code that sets off other code is bounded by a depth; beyond it
there is no result. -/

namespace ExecutableUml.Execution

variable {L : Language}

/-- What an event does to an instance that has a machine: the instance afterwards and, if a
transition was taken, the action to run. -/
def Instance.react (meaning : Meaning L) (i : Instance L) (m : Machine L) (event : String)
    (payload : Payload) : Outcome × Instance L × Option L.Action :=
  match m.table.get? m.current event with
  | none => (.ignored m.current, i, none)
  | some reaction =>
    if reaction.guard.all fun guard => meaning.guard guard i payload then
      (.transitioned m.current reaction.next, i.withMachine (m.advance event reaction.next),
        reaction.action)
    else (.rejected m.current, i, none)

/-- A way to execute procedures; `none` when the depth does not suffice. -/
abbrev Executor (L : Language) :=
  {α : Type} → Procedure L α → Domain L → Option (Except Fault α × Domain L)

/-- The state that an event was handled in. -/
def Outcome.origin : Outcome → String
  | .transitioned source _ => source
  | .ignored state => state
  | .rejected state => state

namespace Domain

def dispatch (meaning : Meaning L) (execute : Executor L) (d : Domain L) (signal : Signal) :
    Option (Except Fault Outcome × Domain L) :=
  match d.instance? signal.target with
  | none => some (.error (.noStateMachine signal.target), d)
  | some i =>
    match i.machine with
    | none => some (.error (.noStateMachine signal.target), d)
    | some m =>
      let (outcome, i', action?) := i.react meaning m signal.event signal.payload
      let d' := d.updateInstance signal.target fun _ => i'
      match action? with
      | none => some (.ok outcome, d')
      | some action =>
        match execute (meaning.action action signal.target signal.payload) d' with
        | none => none
        | some (.ok _, d'') => some (.ok outcome, d'')
        | some (.error fault, d'') =>
          some (.ok outcome,
            d''.report (i.className ++ "[" ++ outcome.origin ++ "/" ++ signal.event ++ "]") fault)

/-- Ends a timer by its time. The signal of a timer that is still pending is dispatched; whether
there was one is the answer. -/
def expireTimer (meaning : Meaning L) (execute : Executor L) (d : Domain L) (id : TimerId) :
    Option (Bool × Domain L) :=
  let (signal?, timers) := d.timers.finish id
  let d' := { d with timers }
  match signal? with
  | none => some (false, d')
  | some signal =>
    match d'.dispatch meaning execute signal with
    | none => none
    | some (.ok _, d'') => some (true, d'')
    | some (.error fault, d'') => some (true, d''.report (timerText id) fault)

def call (meaning : Meaning L) (execute : Executor L) (d : Domain L) (function : String)
    (arguments : Payload) : Option (Except Fault Json × Domain L) :=
  match d.functions.lookup function with
  | none => some (.error (.unknownFunction function), d)
  | some routine => execute (meaning.routine routine arguments) d

/-- The text of a value to be logged; text stands for itself. -/
def plainText : Json → String
  | .string s => s
  | value => value.compact

/-- The record that an operation of the log makes of its arguments. -/
def logRecord? (d : Domain L) (operation : String) (arguments : Payload) : Option Entry :=
  let base := [("message", ((arguments.lookup "message").map plainText).getD ""), ("model", d.name)]
  let value := ((arguments.lookup "value").getD .null).compact
  match operation with
  | "LogInfo" => some (.record .info base)
  | "LogSuccess" => some (.record .info (base ++ [("outcome", "success")]))
  | "LogFailure" => some (.record .warn (base ++ [("outcome", "failure")]))
  | "LogInteger" | "LogReal" => some (.record .info (base ++ [("value", value)]))
  | _ => none

def bridge (meaning : Meaning L) (execute : Executor L) (d : Domain L)
    (entity operation : String) (arguments : Payload) : Option (Except Fault Json × Domain L) :=
  match d.bridges.lookup (Text.upper entity) with
  | none => some (.error (.unknownBridge entity), d)
  | some .log =>
    match d.logRecord? operation arguments with
    | none => some (.error (.unknownBridgeOperation "LOG" operation), d)
    | some entry => some (.ok .null, d.note entry)
  | some (.routines registered operations) =>
    match operations.lookup operation with
    | none => some (.error (.unknownBridgeOperation registered operation), d)
    | some routine => execute (meaning.routine routine arguments) d

end Domain

/-- An answer that cannot be a fault. -/
def answered {α : Type} (result : α × Domain L) : Option (Except Fault α × Domain L) :=
  some (.ok result.1, result.2)

/-- Answers a request; `execute` runs the code that the request sets off. -/
def Request.perform (meaning : Meaning L) (execute : Executor L) (d : Domain L) :
    (r : Request L) → Option (Except Fault r.Answer × Domain L)
  | .observe => answered (d, d)
  | .mark text => answered ((), d.note (.mark text))
  | .registerClass definition => answered ((), d.registerClass definition)
  | .registerFunction name routine => answered ((), d.registerFunction name routine)
  | .registerBridge entity handler => answered ((), d.registerBridge entity handler)
  | .create reference attributes => some (d.create reference attributes)
  | .delete id => answered (d.delete id)
  | .setAttribute id name value =>
    answered ((), d.updateInstance id (Instance.setAttribute name value))
  | .relate relationship a b => some (d.relate relationship a b)
  | .relateAll relationship pairs => some (d.relateAll relationship pairs)
  | .unrelate relationship a b => answered (d.unrelate relationship a b)
  | .dispatch signal => d.dispatch meaning execute signal
  | .forceState id state => some (d.forceState id state)
  | .send target name payload => answered ((), d.send target name payload)
  | .startTimer signal => answered (d.startTimer signal)
  | .cancelTimer id => answered (d.cancelTimer id)
  | .cancelAllTimers => answered d.cancelAllTimers
  | .expireTimer id => (d.expireTimer meaning execute id).bind answered
  | .freeze instant => answered ((), { d with now := instant })
  | .call function arguments => d.call meaning execute function arguments
  | .bridge entity operation arguments => d.bridge meaning execute entity operation arguments
  | .report context fault => answered ((), d.report context fault)
  | .reset => answered ((), d.reset)

/-- Runs a procedure to its end, each request answered in the state that the one before left. -/
def Procedure.run {α : Type}
    (perform : Domain L → (r : Request L) → Option (Except Fault r.Answer × Domain L)) :
    Procedure L α → Domain L → Option (Except Fault α × Domain L)
  | .done result, d => some (result, d)
  | .ask request next, d =>
    match perform d request with
    | none => none
    | some (answer, d') => (next answer).run perform d'

/-- Executes a procedure. The code it sets off may be nested `depth` levels deep. -/
def execute (meaning : Meaning L) : Nat → Executor L
  | 0 => fun _ _ => none
  | depth + 1 => fun procedure d => procedure.run (Request.perform meaning (execute meaning depth)) d

/-- Answers a request from outside. -/
def Domain.handle (meaning : Meaning L) (depth : Nat) (d : Domain L) (r : Request L) :
    Option (Except Fault r.Answer × Domain L) :=
  r.perform meaning (execute meaning depth) d

end ExecutableUml.Execution
