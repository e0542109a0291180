import ExecutableUml.Text.Trim
import ExecutableUml.Text.Sorted
import ExecutableUml.Text.Escaped

/-! Transition tables. The first reaction given for a state and an event is the one that counts. -/

namespace ExecutableUml.Execution

open Text

/-- The code a model brings along: conditions on transitions, what transitions do, and routines
that yield a value. What each of them does is said by `Meaning`. -/
structure Language where
  Guard : Type
  Action : Type
  Routine : Type

/-- What a state does on an event. -/
structure Reaction (L : Language) where
  next : String
  guard : Option L.Guard := none
  action : Option L.Action := none

def boolText (b : Bool) : String := if b then "true" else "false"

def Reaction.text {L : Language} (r : Reaction L) : String :=
  "Transition \x7b next: " ++ escaped r.next ++ ", guard: " ++ boolText r.guard.isSome ++
    ", action: " ++ boolText r.action.isSome ++ " \x7d"

structure TransitionTable.Row (L : Language) where
  state : String
  event : String
  reaction : Reaction L

/-- The declared state whose name stands before the first underscore of `state`. -/
def baseState? (declared : List String) (state : String) : Option String :=
  match cutAtChar '_' state.toList with
  | none => none
  | some (base, _) =>
    if base.isEmpty then none
    else if declared.contains (String.ofList base) then some (String.ofList base)
    else none

structure TransitionTable (L : Language) where
  rows : List (TransitionTable.Row L) := []

namespace TransitionTable

variable {L : Language}

def get? (t : TransitionTable L) (state event : String) : Option (Reaction L) :=
  (t.rows.find? fun row => row.state == state && row.event == event).map (·.reaction)

/-- Adds a row unless its state already reacts to its event. -/
def on (t : TransitionTable L) (row : Row L) : TransitionTable L :=
  if (t.get? row.state row.event).isSome then t else ⟨t.rows ++ [row]⟩

def ofRows (rows : List (Row L)) : TransitionTable L := rows.foldl on {}

def size (t : TransitionTable L) : Nat := t.rows.length

def states (t : TransitionTable L) : List String := sortedSet (t.rows.map (·.state))

/-- The rows of a variant `base_…`, as rows of its declared base. -/
def lentRows (t : TransitionTable L) (declared : List String) (state : String) : List (Row L) :=
  match baseState? declared state with
  | none => []
  | some base => (t.rows.filter (·.state == state)).map fun row => { row with state := base }

/-- Lets a declared state react like its variants to the events it has no row for. Of several
variants the one that sorts first lends its row. -/
def withBaseStates (t : TransitionTable L) (declared : List String) : TransitionTable L :=
  (t.states.flatMap (t.lentRows declared)).foldl on t

end TransitionTable

end ExecutableUml.Execution
