/-! The object store in generated projects, line by line. -/

namespace ExecutableUml.Python.Support

def storage : List String := [
  "\"\"\"Per-class instance storage.\"\"\"",
  "",
  "from __future__ import annotations",
  "",
  "import threading",
  "from typing import Any, Callable, Dict, List, Optional",
  "",
  "",
  "class ObjectStore:",
  "    \"\"\"Instances keyed by class name, then by instance id.\"\"\"",
  "",
  "    def __init__(self, rt: Any = None):",
  "        self.rt = rt",
  "        self._store: Dict[str, Dict[str, Any]] = \x7b\x7d",
  "        self._lock = threading.RLock()",
  "",
  "    def register(self, class_name: str) -> None:",
  "        with self._lock:",
  "            self._store.setdefault(class_name, \x7b\x7d)",
  "",
  "    def create(self, class_name: str, instance_id: str, instance: Any) -> Any:",
  "        with self._lock:",
  "            self._store.setdefault(class_name, \x7b\x7d)[instance_id] = instance",
  "        return instance",
  "",
  "    def find(self, class_name: str, instance_id: str) -> Optional[Any]:",
  "        with self._lock:",
  "            return self._store.get(class_name, \x7b\x7d).get(instance_id)",
  "",
  "    def select_all(self, class_name: str) -> List[Any]:",
  "        with self._lock:",
  "            return list(self._store.get(class_name, \x7b\x7d).values())",
  "",
  "    def select_any(self, class_name: str, predicate: Optional[Callable[[Any], bool]] = None) -> Optional[Any]:",
  "        for instance in self.select_all(class_name):",
  "            if predicate is None or predicate(instance):",
  "                return instance",
  "        return None",
  "",
  "    def delete(self, class_name: str, instance_id: str) -> bool:",
  "        with self._lock:",
  "            removed = self._store.get(class_name, \x7b\x7d).pop(instance_id, None)",
  "        if removed is not None and self.rt is not None:",
  "            self.rt.links.forget(removed)",
  "        return removed is not None",
  "",
  "    def delete_instance(self, instance: Any) -> bool:",
  "        if instance is None:",
  "            return False",
  "        return self.delete(type(instance).__name__, instance._id)",
  "",
  "    def count(self, class_name: str) -> int:",
  "        with self._lock:",
  "            return len(self._store.get(class_name, \x7b\x7d))",
  "",
  "    def clear(self, class_name: Optional[str] = None) -> None:",
  "        with self._lock:",
  "            if class_name is None:",
  "                for instances in self._store.values():",
  "                    instances.clear()",
  "            else:",
  "                self._store.get(class_name, \x7b\x7d).clear()"]

end ExecutableUml.Python.Support
