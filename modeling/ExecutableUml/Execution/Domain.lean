import ExecutableUml.Distinct
import ExecutableUml.Execution.Store
import ExecutableUml.Execution.Clock
import ExecutableUml.Execution.Timer
import ExecutableUml.Execution.Journal
import ExecutableUml.Execution.Fault

/-! One executing model: its classes, its instances and the links between them, and what it has
sent, scheduled and recorded. Operations that run no model code are functions on this state. -/

namespace ExecutableUml.Execution

open Text

/-- A message that is kept for its reader, not dispatched. -/
structure Message where
  target : InstanceId
  name : String
  payload : Payload
  sentAt : Instant

/-- What answers for an external entity: the log, or routines by name. -/
inductive Bridge (L : Language) where
  | log
  | routines (entity : String) (operations : List (String × L.Routine))

/-- Registrations are looked up from the front, so a later one replaces an earlier one. `instances`
holds all that were ever created: one that is deleted leaves the store, and keeps its values for
those who still know it. -/
structure Domain (L : Language) where
  name : String
  classes : List (String × ClassDefinition L) := []
  instances : List (Instance L) := []
  store : Store := {}
  links : LinkTable := {}
  messages : List Message := []
  timers : Timers := {}
  now : Instant := .epoch
  functions : List (String × L.Routine) := []
  bridges : List (String × Bridge L) := [("LOG", .log)]
  journal : List Entry := []

namespace Domain

variable {L : Language}

def text (d : Domain L) : String :=
  "Runtime \x7b name: " ++ escaped d.name ++ ", instances: " ++ toString d.store.size ++ " \x7d"

def note (d : Domain L) (entry : Entry) : Domain L := { d with journal := d.journal ++ [entry] }

/-- Records that model code failed. The one who set it off goes on. -/
def report (d : Domain L) (context : String) (fault : Fault) : Domain L :=
  d.note (.record .warn [("context", context), ("error", fault.message),
    ("message", "model code failed"), ("model", d.name)])

/-- Makes a class known under its name and its key letters. -/
def registerClass (d : Domain L) (c : ClassDefinition L) : Domain L :=
  { d with
    store := d.store.register c.name
    classes := (lower c.keyLetters, c) :: (lower c.name, c) :: d.classes }

def registerFunction (d : Domain L) (name : String) (routine : L.Routine) : Domain L :=
  { d with functions := (name, routine) :: d.functions }

def registerBridge (d : Domain L) (entity : String) (bridge : Bridge L) : Domain L :=
  { d with bridges := (upper entity, bridge) :: d.bridges }

/-- The class known under a name or key letters, in any case. -/
def class? (d : Domain L) (reference : String) : Option (ClassDefinition L) :=
  d.classes.lookup (lower reference)

def classNamed (d : Domain L) (reference : String) : Except Fault (ClassDefinition L) :=
  match d.class? reference with
  | none => .error (.unknownClass reference)
  | some c => .ok c

def instance? (d : Domain L) (id : InstanceId) : Option (Instance L) :=
  d.instances.find? (·.id == id)

def updateInstance (d : Domain L) (id : InstanceId) (change : Instance L → Instance L) :
    Domain L :=
  { d with instances := d.instances.map fun i => if i.id = id then change i else i }

def create (d : Domain L) (reference : String) (attributes : Payload) :
    Except Fault InstanceId × Domain L :=
  match d.class? reference with
  | none => (.error (.unknownClass reference), d)
  | some c =>
    let added := d.store.add c.name
    (.ok added.1,
      { d with
        store := added.2
        instances := d.instances ++ [c.instantiate added.1 attributes] })

/-- Takes an instance out of the store together with its links. -/
def delete (d : Domain L) (id : InstanceId) : Bool × Domain L :=
  if d.store.contains id then
    (true, { d with store := d.store.remove id, links := (d.links.forget id).2 })
  else (false, d)

def extent (d : Domain L) (reference : String) : List InstanceId :=
  match d.class? reference with
  | none => []
  | some c => d.store.extent c.name

/-- The first instance of a class that satisfies the condition. -/
def selectAny (d : Domain L) (reference : String) (condition : Instance L → Bool) :
    Option InstanceId :=
  (d.extent reference).find? fun id => (d.instance? id).any condition

/-- The first identity of the list that is not alive. -/
def firstDead (d : Domain L) (ids : List InstanceId) : Option InstanceId :=
  ids.find? fun id => !d.store.contains id

def relate (d : Domain L) (relationship : String) (a b : InstanceId) :
    Except Fault Bool × Domain L :=
  match d.firstDead [a, b] with
  | some id => (.error (.unknownInstance id), d)
  | none =>
    let related := d.links.relate relationship a b
    (.ok related.1, { d with links := related.2 })

/-- Links all pairs and counts the new ones, or links none if an end is not alive. -/
def relateAll (d : Domain L) (relationship : String) (pairs : List (InstanceId × InstanceId)) :
    Except Fault Nat × Domain L :=
  match d.firstDead (pairs.flatMap fun pair => [pair.1, pair.2]) with
  | some id => (.error (.unknownInstance id), d)
  | none =>
    let related := d.links.relateAll relationship pairs
    (.ok related.1, { d with links := related.2 })

def unrelate (d : Domain L) (relationship : String) (a b : InstanceId) : Bool × Domain L :=
  let unrelated := d.links.unrelate relationship a b
  (unrelated.1, { d with links := unrelated.2 })

def forceState (d : Domain L) (id : InstanceId) (state : String) : Except Fault Unit × Domain L :=
  match (d.instance? id).bind (·.machine) with
  | none => (.error (.noStateMachine id), d)
  | some _ => (.ok (), d.updateInstance id (Instance.force state))

def send (d : Domain L) (target : InstanceId) (name : String) (payload : Payload) : Domain L :=
  { d with messages := d.messages ++ [⟨target, name, payload, d.now⟩] }

def startTimer (d : Domain L) (signal : Signal) : TimerId × Domain L :=
  let started := d.timers.start signal
  (started.1, { d with timers := started.2 })

/-- Whether the timer was still pending. -/
def cancelTimer (d : Domain L) (id : TimerId) : Bool × Domain L :=
  let finished := d.timers.finish id
  (finished.1.isSome, { d with timers := finished.2 })

def cancelAllTimers (d : Domain L) : Nat × Domain L :=
  let cancelled := d.timers.cancelAll
  (cancelled.1, { d with timers := cancelled.2 })

/-- Drops instances, links, messages and timers. What is registered stays, and so do the counters
that give out identities. -/
def reset (d : Domain L) : Domain L :=
  { d with
    store := d.store.clear
    links := d.links.clear
    messages := []
    timers := d.timers.cancelAll.2 }

end Domain

end ExecutableUml.Execution
