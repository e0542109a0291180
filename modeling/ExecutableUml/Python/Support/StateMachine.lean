/-! The state machine in generated projects, line by line. -/

namespace ExecutableUml.Python.Support

def stateMachine : List String := [
  "\"\"\"Table-driven state machine attached to a model instance.\"\"\"",
  "",
  "from __future__ import annotations",
  "",
  "import threading",
  "from typing import Any, Callable, Dict, List, Optional, Tuple",
  "",
  "Guard = Callable[[Any, Dict[str, Any]], bool]",
  "Action = Callable[[Any, Dict[str, Any]], Any]",
  "Entry = Tuple[Optional[Guard], Optional[Action], str]",
  "",
  "",
  "class StateMachine:",
  "    \"\"\"Dispatches events against a (state -> event -> entry) table.",
  "",
  "    The state change happens under the machine's lock. The action runs",
  "    after the lock is released, so an action may generate events to its",
  "    own instance.",
  "    \"\"\"",
  "",
  "    def __init__(self, owner: Any, initial_state: str, table: Dict[str, Dict[str, Entry]]):",
  "        self.owner = owner",
  "        self.table = table",
  "        self._state = initial_state",
  "        self._history: List[Tuple[str, str, str]] = []",
  "        self._lock = threading.RLock()",
  "        owner.set_attr(\"currentState\", initial_state)",
  "        owner.rt.log(\"SM\", f\"\x7bowner!r\x7d initial state: \x7binitial_state\x7d\")",
  "",
  "    @property",
  "    def state(self) -> str:",
  "        with self._lock:",
  "            return self._state",
  "",
  "    def dispatch(self, event: str, payload: Optional[Dict[str, Any]] = None) -> bool:",
  "        payload = dict(payload or \x7b\x7d)",
  "        rt = self.owner.rt",
  "        with self._lock:",
  "            prior = self._state",
  "            entry = self.table.get(prior, \x7b\x7d).get(event)",
  "            if entry is None:",
  "                rt.log(\"SM\", f\"\x7bself.owner!r\x7d ignored event \x7bevent\x7d in state \x7bprior\x7d\")",
  "                return False",
  "            guard, action, next_state = entry",
  "            if guard is not None:",
  "                try:",
  "                    allowed = bool(guard(self.owner, payload))",
  "                except Exception as exc:",
  "                    rt.report(f\"guard \x7bprior\x7d / \x7bevent\x7d\", exc)",
  "                    allowed = False",
  "                if not allowed:",
  "                    rt.log(\"SM\", f\"\x7bself.owner!r\x7d guard rejected \x7bevent\x7d in state \x7bprior\x7d\")",
  "                    return False",
  "            target = next_state or prior",
  "            self._state = target",
  "            self._history.append((prior, event, target))",
  "            self.owner.set_attr(\"currentState\", target)",
  "",
  "        rt.log(\"SM\", f\"\x7bself.owner!r\x7d \x7bprior\x7d --\x7bevent\x7d--> \x7btarget\x7d\")",
  "        if action is not None:",
  "            try:",
  "                action(self.owner, payload)",
  "            except Exception as exc:",
  "                rt.report(f\"action \x7bprior\x7d --\x7bevent\x7d--> \x7btarget\x7d\", exc)",
  "        return True",
  "",
  "    def force_state(self, state: str) -> None:",
  "        with self._lock:",
  "            self._state = state",
  "            self.owner.set_attr(\"currentState\", state)",
  "",
  "    def get_current_state(self) -> str:",
  "        return self.state",
  "",
  "    def get_history(self) -> List[Tuple[str, str, str]]:",
  "        with self._lock:",
  "            return list(self._history)"]

end ExecutableUml.Python.Support
