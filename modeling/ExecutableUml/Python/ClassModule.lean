import ExecutableUml.Python.Module
import ExecutableUml.Python.TransitionRow

/-! The module of a class: attributes, operations, links to supertype and subtypes, and the state
machine. An external entity has operations only. -/

namespace ExecutableUml.Python

open Text ExecutableUml.Action

def bodyIndent : String := "        "

def pyNameOf (m : Model) (id : ClassId) : String := ((m.classes[id]?).map Class.pyName).getD ""

def constants (c : Class) : List String :=
  ["    kl = " ++ stringLiteral c.keyLetters,
   "    model_name = " ++ stringLiteral c.name,
   "    class_id = " ++ stringLiteral c.id]

def generalizationConstants (m : Model) (c : Class) : List String :=
  (match c.superClass with
    | some s => ["    supertype = " ++ stringLiteral (pyNameOf m s)]
    | none => []) ++
  (if c.subClasses.isEmpty then []
   else ["    subtypes = " ++ tuple (c.subClasses.map fun s => stringLiteral (pyNameOf m s))])

def supertypeMethod (m : Model) (id : ClassId) (c : Class) : List String :=
  match c.superClass with
  | none => []
  | some s =>
    let relId := ((m.generalizations.find? fun g => g.superClass == s && g.subClass == id).map
      Generalization.relId).getD ""
    let name := pyNameOf m s
    ["",
     "    def get_supertype(self) -> Optional[InstanceBase]:",
     "        " ++ docstring ("The " ++ name ++ " instance this is a subtype of, across " ++ relId ++ "."),
     "        return self.rt.links.select_one_related(" ++ stringLiteral relId ++ ", self, " ++
       stringLiteral name ++ ")"]

def subtypeMethod (m : Model) (id : ClassId) (c : Class) : List String :=
  if c.subClasses.isEmpty then []
  else
    let pairs := (m.generalizations.filter fun g => g.superClass == id).map fun g =>
      "(" ++ stringLiteral g.relId ++ ", " ++ stringLiteral (pyNameOf m g.subClass) ++ ")"
    ["",
     "    def get_subtype(self) -> Optional[InstanceBase]:",
     "        " ++ docstring "The subtype instance currently related to this supertype.",
     "        for rel_id, subtype in " ++ tuple pairs ++ ":",
     "            found = self.rt.links.select_one_related(rel_id, self, subtype)",
     "            if found is not None:",
     "                return found",
     "        return None"]

/-- An operation up to its body. -/
def operationHeader (tag label : String) (o : Operation) : List String :=
  ["",
   "    def " ++ identifier o.name ++ "(self, " ++ parameterList o.parameters ++ "):",
   "        " ++ docstring (docstringText o.signature),
   "        owner = self",
   "        rt = self.rt",
   "        payload = kwargs"] ++
  parameterBindings bodyIndent o.parameters ++
  ["        rt.log(" ++ stringLiteral tag ++ ", f\"\x7bself!r\x7d " ++ formattedText label ++
    "(\x7bkwargs\x7d)\")"]

def operationModule (scope : Scope) (origins : List (String × String)) (className tag label : String)
    (o : Operation) : Module :=
  Module.append ⟨operationHeader tag label o, []⟩
    (actionBody scope origins bodyIndent (className ++ "." ++ o.name) o.action)

/-- The method of a transition, with its code. -/
def transitionMethod (scope : Scope) (origins : List (String × String)) (className : String)
    (row : TransitionRow) : Module :=
  match row.method with
  | none => ⟨[], []⟩
  | some method =>
    let t := row.transition
    let header := [
      "",
      "    def " ++ method ++ "(self, owner, payload: Dict[str, Any]) -> None:",
      "        " ++ docstring (docstringText t.source ++ " --" ++ docstringText t.event ++ "--> " ++
        docstringText t.target)]
    let parameters := if t.eventParameters.isEmpty then [] else
      ["        # Event parameters: " ++
        joinWith ", " (t.eventParameters.map fun p => p.name ++ ": " ++ p.type.text)]
    let opening := ["        rt = owner.rt", "        kwargs = payload"]
    Module.append ⟨header ++ parameters ++ opening, []⟩
      (actionBody scope origins bodyIndent
        (className ++ "[" ++ t.source ++ "/" ++ t.event ++ "]") t.action)

def rowLines (row : TransitionRow) : List String :=
  let guard := match row.transition.guard with
    | some expr => "lambda owner, payload: " ++ compileExpression expr
    | none => "None"
  let action := match row.method with
    | some method => "self." ++ method
    | none => "None"
  (match row.aliasOf with
    | some origin => ["        # " ++ row.state ++ " inherits from " ++ origin]
    | none => []) ++
  ["        table.setdefault(" ++ stringLiteral row.state ++ ", \x7b\x7d)[" ++
    stringLiteral row.transition.event ++ "] = (" ++ guard ++ ", " ++ action ++ ", " ++
    stringLiteral row.transition.target ++ ")"]

def machineModule (scope : Scope) (className : String) (m : StateMachine) : Module :=
  let rows := TransitionRow.ofMachine m
  let methods := (rows.filter fun r => r.aliasOf.isNone).map
    (transitionMethod scope m.eventOrigins className)
  Module.concat ([⟨["", "    # State machine"], []⟩] ++ methods ++ [⟨
    ["",
     "    def _build_sm_table(self) -> Dict[str, Dict[str, Any]]:",
     "        table: Dict[str, Dict[str, Any]] = \x7b\x7d"] ++
    rows.flatMap rowLines ++
    ["        return table",
     "",
     "    def _build_state_machine(self) -> None:",
     "        initial_state = self.get_attr(\"currentState\") or " ++ stringLiteral m.initialState,
     "        self.sm = StateMachine(self, initial_state, self._build_sm_table())",
     "",
     "    def dispatch_event(self, event_name: str, **payload: Any) -> bool:",
     "        " ++ docstring "Dispatches an event to this instance's state machine.",
     "        return self.sm.dispatch(event_name, payload)",
     "",
     "    def get_current_state(self) -> str:",
     "        return self.sm.get_current_state()"], []⟩])

def moduleScope (symbols : SymbolTable) (className : Option String) : Scope :=
  Scope.ofOwner symbols className "owner"

def instanceClassModule (m : Model) (symbols : SymbolTable) (id : ClassId) (c : Class) : Module :=
  let scope := moduleScope symbols (some c.name)
  let origins := (c.stateMachine.map StateMachine.eventOrigins).getD []
  let head := banner ("models/" ++ c.pyName ++ ".py") ++ [
    "from __future__ import annotations",
    "",
    "import uuid",
    "from typing import Any, Dict, List, Optional",
    "",
    "from runtime.base import InstanceBase",
    "from runtime.services import EventInstance"] ++
    (if c.stateMachine.isSome then ["from runtime.state_machine import StateMachine"] else []) ++ [
    "",
    "",
    "class " ++ c.pyName ++ "(InstanceBase):",
    "    " ++ docstring ("xtUML class " ++ c.name ++ " (" ++ c.keyLetters ++ ")."),
    ""] ++
    constants c ++ generalizationConstants m c ++ [
    "",
    "    def __init__(self, rt, id: Optional[str] = None):",
    "        super().__init__(rt, id)"] ++
    c.attributes.map attributeLine ++
    ["        rt.store.create(" ++ stringLiteral c.pyName ++ ", self._id, self)"] ++
    (if c.stateMachine.isSome then ["        self._build_state_machine()"] else []) ++
    supertypeMethod m id c ++ subtypeMethod m id c
  let operations := c.operations.map fun o =>
    operationModule scope origins c.name "OP" (c.pyName ++ "." ++ o.name) o
  let machine := (c.stateMachine.map (machineModule scope c.name)).toList
  Module.concat ([⟨head, []⟩] ++ operations ++ machine)

def externalModule (symbols : SymbolTable) (c : Class) : Module :=
  let scope := moduleScope symbols (some c.name)
  let head := banner ("models/" ++ c.pyName ++ ".py") ++ [
    "from __future__ import annotations",
    "",
    "import uuid",
    "from typing import Any, Dict, List, Optional",
    "",
    "from runtime.services import EventInstance",
    "",
    "",
    "class " ++ c.pyName ++ ":",
    "    " ++ docstring ("External entity " ++ c.name ++ " (" ++ c.keyLetters ++ ")."),
    ""] ++
    constants c ++ [
    "    is_external = True",
    "",
    "    def __init__(self, rt):",
    "        self.rt = rt"]
  let operations := c.operations.map fun o =>
    operationModule scope [] c.name "BRIDGE" (c.keyLetters ++ "::" ++ o.name) o
  Module.concat (⟨head, []⟩ :: operations)

def classModule (m : Model) (symbols : SymbolTable) (id : ClassId) (c : Class) : Module :=
  if c.isExternal then externalModule symbols c else instanceClassModule m symbols id c

end ExecutableUml.Python
