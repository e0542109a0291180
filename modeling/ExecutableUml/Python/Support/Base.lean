/-! The context of a running model and the base class of its instances in generated projects, line
by line. -/

namespace ExecutableUml.Python.Support

def base : List String := [
  "\"\"\"Runtime context and the base class of every generated model class.\"\"\"",
  "",
  "from __future__ import annotations",
  "",
  "import threading",
  "import uuid",
  "from typing import Any, Callable, Dict, Optional",
  "",
  "from runtime.relationship import LinkTable",
  "from runtime.services import LogBridge, RuntimeServices, TimerBridge",
  "from runtime.storage import ObjectStore",
  "",
  "",
  "class InstanceBase:",
  "    \"\"\"Attribute storage and identity shared by all model instances.\"\"\"",
  "",
  "    kl = \"BASE\"",
  "    model_name = \"InstanceBase\"",
  "    class_id = \"\"",
  "    is_external = False",
  "    is_association = False",
  "",
  "    def __init__(self, rt: \"Runtime\", id: Optional[str] = None):",
  "        self.rt = rt",
  "        self._id = id or str(uuid.uuid4())",
  "        self._attrs: Dict[str, Any] = \x7b\x7d",
  "        self._attr_lock = threading.RLock()",
  "        self.sm = None",
  "",
  "    @property",
  "    def id(self) -> str:",
  "        return self._id",
  "",
  "    def get_attr(self, name: str, default: Any = None) -> Any:",
  "        with self._attr_lock:",
  "            return self._attrs.get(name, default)",
  "",
  "    def set_attr(self, name: str, value: Any) -> None:",
  "        with self._attr_lock:",
  "            self._attrs[name] = value",
  "",
  "    def attributes(self) -> Dict[str, Any]:",
  "        with self._attr_lock:",
  "            return dict(self._attrs)",
  "",
  "    def __repr__(self) -> str:",
  "        return f\"[\x7bself.kl\x7d:\x7bself._id\x7d]\"",
  "",
  "",
  "class Runtime:",
  "    \"\"\"Object store, link table, services and registries of one running model.\"\"\"",
  "",
  "    def __init__(self, name: str = \"xtuml_model\", verbose: bool = True):",
  "        self.name = name",
  "        self.verbose = verbose",
  "        self._lock = threading.RLock()",
  "        self._classes: Dict[str, type] = \x7b\x7d",
  "        self._functions: Dict[str, Callable[..., Any]] = \x7b\x7d",
  "        self._bridges: Dict[str, Any] = \x7b\x7d",
  "        self.store = ObjectStore(self)",
  "        self.links = LinkTable(self)",
  "        self.services = RuntimeServices(self)",
  "        self.register_bridge(\"TIM\", TimerBridge(self))",
  "        self.register_bridge(\"LOG\", LogBridge(self))",
  "",
  "    # ------------------------------------------------------------------",
  "    # Output",
  "    # ------------------------------------------------------------------",
  "",
  "    def log(self, tag: str, message: str) -> None:",
  "        if self.verbose:",
  "            print(f\"[\x7btag\x7d] \x7bmessage\x7d\")",
  "",
  "    def report(self, context: str, exc: BaseException) -> None:",
  "        print(f\"[OAL] \x7bcontext\x7d: \x7btype(exc).__name__\x7d: \x7bexc\x7d\")",
  "",
  "    # ------------------------------------------------------------------",
  "    # Class registry",
  "    # ------------------------------------------------------------------",
  "",
  "    def register_class(self, cls: type) -> None:",
  "        keys = \x7bcls.__name__, getattr(cls, \"kl\", \"\"), getattr(cls, \"model_name\", \"\"), getattr(cls, \"class_id\", \"\")\x7d",
  "        with self._lock:",
  "            for key in keys:",
  "                if key:",
  "                    self._classes.setdefault(str(key).lower(), cls)",
  "        self.store.register(cls.__name__)",
  "",
  "    def lookup_class(self, ref: str) -> type:",
  "        with self._lock:",
  "            cls = self._classes.get(str(ref).lower())",
  "        if cls is None:",
  "            raise KeyError(f\"unknown class '\x7bref\x7d'\")",
  "        return cls",
  "",
  "    def class_name(self, ref: str) -> str:",
  "        \"\"\"Resolves a class reference (name, key letters or id) to its Python class name.\"\"\"",
  "        with self._lock:",
  "            cls = self._classes.get(str(ref).lower())",
  "        return cls.__name__ if cls is not None else str(ref)",
  "",
  "    def create(self, class_ref: str, id: Optional[str] = None, **attrs: Any) -> InstanceBase:",
  "        cls = self.lookup_class(class_ref)",
  "        instance = cls(self, id)",
  "        for key, value in attrs.items():",
  "            instance.set_attr(key, value)",
  "        return instance",
  "",
  "    # ------------------------------------------------------------------",
  "    # Functions and bridges",
  "    # ------------------------------------------------------------------",
  "",
  "    def register_function(self, name: str, fn: Callable[..., Any]) -> None:",
  "        with self._lock:",
  "            self._functions[name.lower()] = fn",
  "",
  "    def call_function(self, name: str, *args: Any, **kwargs: Any) -> Any:",
  "        with self._lock:",
  "            fn = self._functions.get(name.lower())",
  "        if fn is None:",
  "            raise NameError(f\"function '\x7bname\x7d' is not defined\")",
  "        return fn(self, *args, **kwargs)",
  "",
  "    def register_bridge(self, entity: str, handler: Any) -> None:",
  "        with self._lock:",
  "            self._bridges[entity.upper()] = handler",
  "",
  "    def bridge(self, entity: str, operation: str, *args: Any, **kwargs: Any) -> Any:",
  "        with self._lock:",
  "            handler = self._bridges.get(entity.upper())",
  "        if handler is None:",
  "            raise LookupError(f\"no bridge registered for '\x7bentity\x7d'\")",
  "        op = getattr(handler, operation, None)",
  "        if op is None:",
  "            raise AttributeError(f\"bridge '\x7bentity\x7d' has no operation '\x7boperation\x7d'\")",
  "        return op(*args, **kwargs)",
  "",
  "    # ------------------------------------------------------------------",
  "    # Lifecycle",
  "    # ------------------------------------------------------------------",
  "",
  "    def reset(self) -> None:",
  "        \"\"\"Cancels timers and forgets every instance and link.\"\"\"",
  "        self.services.cancel_all_timers()",
  "        self.links.clear()",
  "        self.store.clear()"]

end ExecutableUml.Python.Support
