import ExecutableUml.Python.ClassModule

/-! The modules around the classes: the index of the models, the functions, and the entry point. -/

namespace ExecutableUml.Python

open Text ExecutableUml.Action

/-- Names that the index defines itself. -/
def reservedExports : List String := ["CLASSES", "EXTERNAL_ENTITIES", "register_all"]

/-- The key letters that also name their class: those that are identifiers and not taken. -/
def keyLetterAliases (taken : List String) : List Class → List (String × String)
  | [] => []
  | c :: cs =>
    if identifier c.keyLetters = c.keyLetters && !taken.contains c.keyLetters then
      (c.keyLetters, c.pyName) :: keyLetterAliases (c.keyLetters :: taken) cs
    else keyLetterAliases taken cs

def indexLines (m : Model) : List String :=
  let modules := m.classes.map Class.pyName ++ m.associations.map AssociationClass.pyName
  let aliases := keyLetterAliases (reservedExports ++ modules) m.classes
  let instanceClasses := (m.classes.filter fun c => !c.isExternal).map Class.pyName ++
    m.associations.map AssociationClass.pyName
  let externals := (m.classes.filter Class.isExternal).map Class.pyName
  banner "models/__init__.py" ++
  [docstring ("Classes of the " ++ docstringText m.name ++ " model."), ""] ++
  modules.map (fun n => "from models." ++ n ++ " import " ++ n) ++
  (if aliases.isEmpty then []
   else ["", "# Key letter aliases"] ++ aliases.map fun (kl, n) => kl ++ " = " ++ n) ++
  ["",
   "CLASSES = [" ++ joinWith ", " instanceClasses ++ "]",
   "EXTERNAL_ENTITIES = [" ++ joinWith ", " externals ++ "]",
   "",
   "__all__ = ["] ++
  (modules ++ aliases.map Prod.fst ++ reservedExports).map (fun n => "    " ++ stringLiteral n ++ ",") ++
  ["]",
   "",
   "",
   "def register_all(rt) -> None:",
   "    " ++ docstring "Registers every class and external entity with a runtime.",
   "    for cls in CLASSES:",
   "        rt.register_class(cls)",
   "    for entity in EXTERNAL_ENTITIES:",
   "        rt.register_bridge(entity.kl, entity(rt))"]

-- Functions

def functionIndent : String := "    "

/-- Each function with an identifier of its own. -/
def namedFunctions (taken : List String) : List Operation → List (String × Operation)
  | [] => []
  | f :: fs =>
    let name := freeName id taken (identifier f.name)
    (name, f) :: namedFunctions (name :: taken) fs

def functionModule (scope : Scope) (pyName : String) (f : Operation) : Module :=
  let signature := if f.signature.isEmpty then f.name else f.signature
  Module.append ⟨[
    "",
    "",
    "def " ++ pyName ++ "(rt, " ++ parameterList f.parameters ++ "):",
    "    " ++ docstring (docstringText signature),
    "    owner = None",
    "    payload = kwargs"] ++
    parameterBindings functionIndent f.parameters ++
    ["    rt.log(\"FUNCTION\", f\"" ++ formattedText f.name ++ "(\x7bkwargs\x7d)\")"], []⟩
    (actionBody scope [] functionIndent ("functions." ++ f.name) f.action)

def functionsModule (m : Model) (symbols : SymbolTable) : Module :=
  let scope := moduleScope symbols none
  let functions := namedFunctions [] m.functions
  let head := banner "functions.py" ++ [
    docstring ("Domain functions of the " ++ docstringText m.name ++ " model."),
    "",
    "from __future__ import annotations",
    "",
    "import uuid",
    "from typing import Any, Dict, List, Optional",
    "",
    "from runtime.services import EventInstance"]
  let tail := ["", "", "FUNCTIONS = \x7b"] ++
    functions.map (fun (name, f) => "    " ++ stringLiteral f.name ++ ": " ++ name ++ ",") ++ [
    "\x7d",
    "",
    "",
    "def register_all(rt) -> None:",
    "    " ++ docstring "Registers every domain function with a runtime.",
    "    for name, fn in FUNCTIONS.items():",
    "        rt.register_function(name, fn)"]
  Module.concat ([⟨head, []⟩] ++ functions.map (fun (name, f) => functionModule scope name f) ++
    [⟨tail, []⟩])

-- Entry point

/-- The class that the entry point drives: the first one with instances and a state machine, else
the first one with instances. -/
def mainClass (m : Model) : Option Class :=
  let candidates := m.classes.filter fun c => !c.isExternal
  (candidates.find? fun c => c.stateMachine.isSome) <|> candidates.head?

def demoKey (c : Class) : String := lower c.pyName

/-- A call that would start the machine, as a comment. -/
def suggestedDispatch (m : StateMachine) : List String :=
  match (m.transitions.find? fun t => t.source == m.initialState) <|> m.transitions.head? with
  | none => []
  | some t =>
    ["        # main_instance.dispatch_event(" ++ joinWith ", " (stringLiteral t.event ::
      t.eventParameters.map fun p => identifier p.name ++ "=" ++ p.type.initial) ++ ")"]

def mainInstanceLines (m : Model) : List String :=
  match mainClass m with
  | none => []
  | some c =>
    ["    main_instance = instances.get(" ++ stringLiteral (demoKey c) ++ ")",
     "    if main_instance is not None and main_instance.sm is not None:",
     "        print(f\"Current state: \x7bmain_instance.sm.get_current_state()\x7d\")"] ++
    (c.stateMachine.map suggestedDispatch).getD []

def demoLine (c : Class) : String :=
  "    instances[" ++ stringLiteral (demoKey c) ++ "] = rt.create(" ++ stringLiteral c.pyName ++
    ", id=" ++ stringLiteral (demoKey c ++ "_1") ++ ")"

def appLines (m : Model) : List String :=
  let withFunctions (line : String) : List String := if m.functions.isEmpty then [] else [line]
  ["#!/usr/bin/env python3"] ++ banner "app.py" ++ [
    docstring ("Entry point for the " ++ docstringText m.name ++ " model."),
    "",
    "from __future__ import annotations",
    "",
    "from typing import Any, Dict, Tuple",
    "",
    "import models"] ++
  withFunctions "import functions" ++ [
    "from runtime import Runtime",
    "",
    "MODEL_NAME = " ++ stringLiteral m.name,
    "",
    "",
    "def build_runtime(verbose: bool = True) -> Runtime:",
    "    rt = Runtime(MODEL_NAME, verbose=verbose)",
    "    models.register_all(rt)"] ++
  withFunctions "    functions.register_all(rt)" ++ [
    "    return rt",
    "",
    "",
    "def setup_demo_data(rt: Runtime) -> Dict[str, Any]:",
    "    " ++ docstring "Creates one instance of every class.",
    "    instances: Dict[str, Any] = \x7b\x7d"] ++
  (m.classes.filter fun c => !c.isExternal).map demoLine ++ [
    "    return instances",
    "",
    "",
    "def run() -> Tuple[Runtime, Dict[str, Any]]:",
    "    rt = build_runtime()",
    "    print(\"=\" * 60)",
    "    print(f\"\x7bMODEL_NAME\x7d - system start\")",
    "    print(\"=\" * 60)",
    "    instances = setup_demo_data(rt)"] ++
  mainInstanceLines m ++ [
    "    return rt, instances",
    "",
    "",
    "if __name__ == \"__main__\":",
    "    rt, instances = run()",
    "    print(\"Available instances:\", list(instances.keys()))"]

end ExecutableUml.Python
