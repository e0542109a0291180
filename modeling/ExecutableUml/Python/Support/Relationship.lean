/-! The link table in generated projects, line by line. -/

namespace ExecutableUml.Python.Support

def relationship : List String := [
  "\"\"\"Symmetric link table for relationships.\"\"\"",
  "",
  "from __future__ import annotations",
  "",
  "import threading",
  "from typing import Any, Dict, Iterable, List, Optional, Sequence, Tuple",
  "",
  "Link = Tuple[Any, Any]",
  "",
  "",
  "def _is_a(instance: Any, class_ref: str) -> bool:",
  "    wanted = class_ref.lower()",
  "    if str(getattr(instance, \"kl\", \"\")).lower() == wanted:",
  "        return True",
  "    if str(getattr(instance, \"model_name\", \"\")).lower() == wanted:",
  "        return True",
  "    return any(c.__name__.lower() == wanted for c in type(instance).__mro__)",
  "",
  "",
  "def _unique(items: Iterable[Any]) -> List[Any]:",
  "    seen = set()",
  "    result = []",
  "    for item in items:",
  "        if id(item) not in seen:",
  "            seen.add(id(item))",
  "            result.append(item)",
  "    return result",
  "",
  "",
  "class LinkTable:",
  "    \"\"\"Links per relationship id. A link has no direction: relating a to b",
  "    also relates b to a.\"\"\"",
  "",
  "    def __init__(self, rt: Any = None):",
  "        self.rt = rt",
  "        self._links: Dict[str, List[Link]] = \x7b\x7d",
  "        self._lock = threading.RLock()",
  "",
  "    def _log(self, message: str) -> None:",
  "        if self.rt is not None:",
  "            self.rt.log(\"RELATE\", message)",
  "",
  "    @staticmethod",
  "    def _contains(links: List[Link], a: Any, b: Any) -> bool:",
  "        return any((x is a and y is b) or (x is b and y is a) for x, y in links)",
  "",
  "    def relate(self, rel_id: str, a: Any, b: Any) -> bool:",
  "        \"\"\"Links a and b. Relating an already linked pair is a no-op.\"\"\"",
  "        if a is None or b is None:",
  "            return False",
  "        with self._lock:",
  "            links = self._links.setdefault(rel_id, [])",
  "            if self._contains(links, a, b):",
  "                return False",
  "            links.append((a, b))",
  "        self._log(f\"\x7ba!r\x7d -[\x7brel_id\x7d]- \x7bb!r\x7d\")",
  "        return True",
  "",
  "    def relate_all(self, rel_id: str, pairs: Sequence[Link]) -> bool:",
  "        \"\"\"Links every pair, or none of them if any end is missing.\"\"\"",
  "        if any(a is None or b is None for a, b in pairs):",
  "            return False",
  "        with self._lock:",
  "            links = self._links.setdefault(rel_id, [])",
  "            for a, b in pairs:",
  "                if not self._contains(links, a, b):",
  "                    links.append((a, b))",
  "        for a, b in pairs:",
  "            self._log(f\"\x7ba!r\x7d -[\x7brel_id\x7d]- \x7bb!r\x7d\")",
  "        return True",
  "",
  "    def unrelate(self, rel_id: str, a: Any, b: Any) -> bool:",
  "        if a is None or b is None:",
  "            return False",
  "        with self._lock:",
  "            links = self._links.get(rel_id, [])",
  "            kept = [(x, y) for x, y in links if not ((x is a and y is b) or (x is b and y is a))]",
  "            removed = len(kept) != len(links)",
  "            self._links[rel_id] = kept",
  "        if removed:",
  "            self._log(f\"\x7ba!r\x7d -/[\x7brel_id\x7d]/- \x7bb!r\x7d\")",
  "        return removed",
  "",
  "    def _others(self, rel_id: str, source: Any) -> List[Any]:",
  "        with self._lock:",
  "            links = list(self._links.get(rel_id, []))",
  "        others = []",
  "        for a, b in links:",
  "            if a is source:",
  "                others.append(b)",
  "            elif b is source:",
  "                others.append(a)",
  "        return others",
  "",
  "    def select_related(self, rel_id: str, source: Any, target_class: Optional[str] = None) -> List[Any]:",
  "        \"\"\"Instances linked to source across rel_id, optionally filtered by",
  "        class. Association instances are stepped through when the filter",
  "        names the far participant.\"\"\"",
  "        if source is None:",
  "            return []",
  "        direct = self._others(rel_id, source)",
  "        if target_class is None:",
  "            return _unique(direct)",
  "",
  "        found = []",
  "        for other in direct:",
  "            if _is_a(other, target_class):",
  "                found.append(other)",
  "            elif getattr(other, \"is_association\", False):",
  "                found.extend(x for x in self._others(rel_id, other) if x is not source and _is_a(x, target_class))",
  "        return _unique(found)",
  "",
  "    def select_one_related(self, rel_id: str, source: Any, target_class: Optional[str] = None) -> Optional[Any]:",
  "        related = self.select_related(rel_id, source, target_class)",
  "        return related[0] if related else None",
  "",
  "    def navigate(self, source: Any, steps: Sequence[Tuple[str, Optional[str]]]) -> List[Any]:",
  "        \"\"\"Follows a chain of (rel_id, class) hops from source.\"\"\"",
  "        current = [] if source is None else [source]",
  "        for rel_id, target_class in steps:",
  "            reached = []",
  "            for instance in current:",
  "                reached.extend(self.select_related(rel_id, instance, target_class))",
  "            current = _unique(reached)",
  "        return current",
  "",
  "    def is_related(self, rel_id: str, a: Any, b: Any) -> bool:",
  "        with self._lock:",
  "            return self._contains(self._links.get(rel_id, []), a, b)",
  "",
  "    def link_count(self, rel_id: str) -> int:",
  "        with self._lock:",
  "            return len(self._links.get(rel_id, []))",
  "",
  "    def forget(self, instance: Any) -> None:",
  "        \"\"\"Drops every link that involves instance.\"\"\"",
  "        with self._lock:",
  "            for rel_id, links in self._links.items():",
  "                self._links[rel_id] = [(a, b) for a, b in links if a is not instance and b is not instance]",
  "",
  "    def clear(self, rel_id: Optional[str] = None) -> None:",
  "        with self._lock:",
  "            if rel_id is None:",
  "                self._links.clear()",
  "            else:",
  "                self._links.pop(rel_id, None)"]

end ExecutableUml.Python.Support
