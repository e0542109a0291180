import ExecutableUml.Execution.Instance
import ExecutableUml.Execution.Link

/-! Timers: signals that wait for their time. A timer ends when it is cancelled or when it expires,
whichever comes first. -/

namespace ExecutableUml.Execution

abbrev TimerId := Nat

def timerText (id : TimerId) : String := "timer-" ++ toString id

/-- An event on its way to an instance. -/
structure Signal where
  target : InstanceId
  event : String
  payload : Payload := []

/-- Identities of timers have 64 bits; behind the last one they start over. -/
def timerIds : Nat := Nat.pow 2 64

/-- The timers that were started and have not ended, each identity once. -/
structure Timers where
  nextId : TimerId := 1
  pending : List (TimerId × Signal) := []

namespace Timers

/-- A timer that is pending under the same identity is replaced. -/
def start (t : Timers) (signal : Signal) : TimerId × Timers :=
  (t.nextId,
    { nextId := (t.nextId + 1) % timerIds
      pending := t.pending.filter (·.1 ≠ t.nextId) ++ [(t.nextId, signal)] })

/-- Takes a pending timer out; its signal is there for whoever ended the timer. -/
def finish (t : Timers) (id : TimerId) : Option Signal × Timers :=
  (t.pending.lookup id, { t with pending := t.pending.filter (·.1 ≠ id) })

def active (t : Timers) : List TimerId := ascending (t.pending.map Prod.fst)

def cancelAll (t : Timers) : Nat × Timers := (t.pending.length, { t with pending := [] })

end Timers

end ExecutableUml.Execution
