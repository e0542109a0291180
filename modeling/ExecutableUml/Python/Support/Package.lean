/-! The package index in generated projects, line by line. -/

namespace ExecutableUml.Python.Support

def packageInit : List String := [
  "\"\"\"Runtime support for generated xtUML models.",
  "",
  "Everything a generated model needs at run time hangs off one Runtime",
  "object, passed explicitly to instances, actions and functions.",
  "\"\"\"",
  "",
  "from runtime.base import InstanceBase, Runtime",
  "from runtime.relationship import LinkTable",
  "from runtime.services import EventInstance, LogBridge, RuntimeServices, TimerBridge",
  "from runtime.state_machine import StateMachine",
  "from runtime.storage import ObjectStore",
  "",
  "__all__ = [",
  "    \"EventInstance\",",
  "    \"InstanceBase\",",
  "    \"LinkTable\",",
  "    \"LogBridge\",",
  "    \"ObjectStore\",",
  "    \"Runtime\",",
  "    \"RuntimeServices\",",
  "    \"StateMachine\",",
  "    \"TimerBridge\",",
  "]"]

end ExecutableUml.Python.Support
