import ExecutableUml.Distinct
import ExecutableUml.Python.Name
import ExecutableUml.Model.Basic

/-! Rows of a transition table. Every transition has a row, the first for its state and event. A
declared state `base` also takes the rows of `base_variant` for the events it does not handle
itself. -/

namespace ExecutableUml.Python

open Text

structure TransitionRow where
  state : String
  transition : Transition
  method : Option String
  aliasOf : Option String
deriving DecidableEq, Repr

namespace TransitionRow

def sameKey (a b : TransitionRow) : Bool :=
  a.state == b.state && a.transition.event == b.transition.event

def wordText (s : String) : String :=
  String.ofList (s.toList.map fun c => if isWordChar c then c else '_')

def methodName (state event : String) : String :=
  "_sm_action_" ++ wordText state ++ "_" ++ wordText event

/-- Each transition with a method of its own, if it does anything. -/
def withMethods (taken : List String) : List Transition → List TransitionRow
  | [] => []
  | t :: ts =>
    if (trimmed t.action).isEmpty then ⟨t.source, t, none, none⟩ :: withMethods taken ts
    else
      let method := freeName id taken (methodName t.source t.event)
      ⟨t.source, t, some method, none⟩ :: withMethods (method :: taken) ts

def sameTrigger (a b : Transition) : Bool := a.source == b.source && a.event == b.event

def explicit (m : StateMachine) : List TransitionRow :=
  withMethods [] (distinct sameTrigger m.transitions)

/-- The row for the declared state in front of the first underscore. -/
def aliasRow (m : StateMachine) (row : TransitionRow) : Option TransitionRow := do
  let (base, _) ← cutAtChar '_' row.state.toList
  guard (!base.isEmpty && m.hasState (String.ofList base))
  return { row with state := String.ofList base, aliasOf := some row.state }

/-- Explicit rows, then the rows taken over where there is none yet. -/
def ofMachine (m : StateMachine) : List TransitionRow :=
  explicit m ++ distinctFrom sameKey (explicit m) ((explicit m).filterMap (aliasRow m))

end TransitionRow

end ExecutableUml.Python
