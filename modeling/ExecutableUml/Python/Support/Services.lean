/-! Events, timers, messages, the clock and the built-in bridges in generated projects, line by
line. -/

namespace ExecutableUml.Python.Support

def services : List String := [
  "\"\"\"Events, timers, the message bus, the clock and the built-in bridges.\"\"\"",
  "",
  "from __future__ import annotations",
  "",
  "import threading",
  "import time",
  "import uuid",
  "from datetime import datetime",
  "from typing import Any, Dict, List, Optional",
  "",
  "",
  "class EventInstance:",
  "    \"\"\"An event created with 'create event instance' and delivered later.\"\"\"",
  "",
  "    def __init__(self, name: str, target: Any, payload: Optional[Dict[str, Any]] = None):",
  "        self.name = name",
  "        self.target = target",
  "        self.payload = dict(payload or \x7b\x7d)",
  "",
  "    def __repr__(self) -> str:",
  "        return f\"EventInstance(\x7bself.name!r\x7d, \x7bself.target!r\x7d, \x7bself.payload!r\x7d)\"",
  "",
  "",
  "class RuntimeServices:",
  "    def __init__(self, rt: Any):",
  "        self.rt = rt",
  "        self._lock = threading.RLock()",
  "        self._timers: Dict[str, threading.Timer] = \x7b\x7d",
  "        self._messages: List[Dict[str, Any]] = []",
  "        self._frozen_clock: Optional[float] = None",
  "",
  "    # ------------------------------------------------------------------",
  "    # Events and messages",
  "    # ------------------------------------------------------------------",
  "",
  "    def deliver(self, event: EventInstance) -> bool:",
  "        sm = getattr(event.target, \"sm\", None)",
  "        if sm is None:",
  "            self.rt.log(\"EVENT\", f\"\x7bevent.name\x7d dropped: target has no state machine\")",
  "            return False",
  "        return sm.dispatch(event.name, event.payload)",
  "",
  "    def send_message(self, target: str, message: str, payload: Optional[Dict[str, Any]] = None) -> None:",
  "        entry = \x7b\"target\": target, \"message\": message, \"payload\": dict(payload or \x7b\x7d), \"at\": self.current_timestamp()\x7d",
  "        with self._lock:",
  "            self._messages.append(entry)",
  "        self.rt.log(\"MSG\", f\"\x7btarget\x7d::\x7bmessage\x7d \x7bentry['payload']\x7d\")",
  "",
  "    def messages(self) -> List[Dict[str, Any]]:",
  "        with self._lock:",
  "            return list(self._messages)",
  "",
  "    # ------------------------------------------------------------------",
  "    # Timers",
  "    # ------------------------------------------------------------------",
  "",
  "    def create_timer(self, instance: Any, seconds: float, event_name: str,",
  "                     payload: Optional[Dict[str, Any]] = None) -> str:",
  "        \"\"\"Dispatches event_name to instance after `seconds`. A timer that",
  "        fires removes itself, so cancelling it afterwards is a no-op.\"\"\"",
  "        timer_id = str(uuid.uuid4())",
  "",
  "        def fire() -> None:",
  "            with self._lock:",
  "                if self._timers.pop(timer_id, None) is None:",
  "                    return",
  "            self.rt.log(\"TIMER\", f\"\x7btimer_id\x7d fired \x7bevent_name\x7d\")",
  "            sm = getattr(instance, \"sm\", None)",
  "            if sm is not None:",
  "                sm.dispatch(event_name, payload or \x7b\x7d)",
  "",
  "        timer = threading.Timer(max(float(seconds), 0.0), fire)",
  "        timer.daemon = True",
  "        with self._lock:",
  "            self._timers[timer_id] = timer",
  "        timer.start()",
  "        return timer_id",
  "",
  "    def cancel_timer(self, timer_id: Optional[str]) -> bool:",
  "        with self._lock:",
  "            timer = self._timers.pop(timer_id, None) if timer_id is not None else None",
  "        if timer is None:",
  "            return False",
  "        timer.cancel()",
  "        return True",
  "",
  "    def active_timers(self) -> List[str]:",
  "        with self._lock:",
  "            return list(self._timers)",
  "",
  "    def cancel_all_timers(self) -> None:",
  "        with self._lock:",
  "            timers = list(self._timers.values())",
  "            self._timers.clear()",
  "        for timer in timers:",
  "            timer.cancel()",
  "",
  "    # ------------------------------------------------------------------",
  "    # Clock",
  "    # ------------------------------------------------------------------",
  "",
  "    def freeze_clock(self, timestamp: Optional[float]) -> None:",
  "        self._frozen_clock = timestamp",
  "",
  "    def current_timestamp(self) -> float:",
  "        return self._frozen_clock if self._frozen_clock is not None else time.time()",
  "",
  "    def current_date(self) -> str:",
  "        return datetime.fromtimestamp(self.current_timestamp()).strftime(\"%Y-%m-%d\")",
  "",
  "    def current_time(self) -> str:",
  "        return datetime.fromtimestamp(self.current_timestamp()).strftime(\"%H:%M:%S\")",
  "",
  "",
  "class TimerBridge:",
  "    \"\"\"Built-in TIM external entity.\"\"\"",
  "",
  "    def __init__(self, rt: Any):",
  "        self.rt = rt",
  "",
  "    def timer_start(self, event_inst: Optional[EventInstance] = None, microseconds: float = 0,",
  "                    seconds: Optional[float] = None, **kwargs: Any) -> Optional[str]:",
  "        if event_inst is None:",
  "            return None",
  "        delay = seconds if seconds is not None else float(microseconds) / 1_000_000",
  "        return self.rt.services.create_timer(event_inst.target, delay, event_inst.name, event_inst.payload)",
  "",
  "    def timer_cancel(self, timer_inst_ref: Optional[str] = None, **kwargs: Any) -> bool:",
  "        return self.rt.services.cancel_timer(timer_inst_ref)",
  "",
  "    def current_date(self, **kwargs: Any) -> str:",
  "        return self.rt.services.current_date()",
  "",
  "    def current_clock(self, **kwargs: Any) -> float:",
  "        return self.rt.services.current_timestamp()",
  "",
  "",
  "class LogBridge:",
  "    \"\"\"Built-in LOG external entity.\"\"\"",
  "",
  "    def __init__(self, rt: Any):",
  "        self.rt = rt",
  "",
  "    def _emit(self, level: str, message: Any) -> None:",
  "        print(f\"[LOG:\x7blevel\x7d] \x7bmessage\x7d\")",
  "",
  "    def LogInfo(self, message: Any = \"\", **kwargs: Any) -> None:",
  "        self._emit(\"INFO\", message)",
  "",
  "    def LogSuccess(self, message: Any = \"\", **kwargs: Any) -> None:",
  "        self._emit(\"SUCCESS\", message)",
  "",
  "    def LogFailure(self, message: Any = \"\", **kwargs: Any) -> None:",
  "        self._emit(\"FAILURE\", message)",
  "",
  "    def LogInteger(self, value: Any = 0, message: Any = \"\", **kwargs: Any) -> None:",
  "        self._emit(\"INFO\", f\"\x7bmessage\x7d \x7bint(value)\x7d\".strip())",
  "",
  "    def LogReal(self, value: Any = 0.0, message: Any = \"\", **kwargs: Any) -> None:",
  "        self._emit(\"INFO\", f\"\x7bmessage\x7d \x7bfloat(value)\x7d\".strip())"]

end ExecutableUml.Python.Support
