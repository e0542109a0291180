import ExecutableUml.Python.ClassModule

/-! The module of an association class: one instance stands for one link. -/

namespace ExecutableUml.Python

open Text

def classNameOf (m : Model) (id : ClassId) : String := ((m.classes[id]?).map fun c => c.name).getD ""

/-- The attribute that refers to one end of a link. -/
def endAttribute (m : Model) (id : ClassId) : String := m.keyLettersOf id ++ "_ref"

/-- The method that reads an end by the name of its class. -/
def getterName (m : Model) (id : ClassId) : String := "get_" ++ lower (identifier (classNameOf m id))

def namedGetters (source target : String) : List String :=
  if source = target then []
  else
    ["",
     "    def " ++ source ++ "(self) -> Any:",
     "        return self.get_from()",
     "",
     "    def " ++ target ++ "(self) -> Any:",
     "        return self.get_to()"]

/-- The lines in front of the methods. -/
def associationHead (m : Model) (a : AssociationClass) : List String :=
  banner ("models/" ++ a.pyName ++ ".py") ++ [
    "from __future__ import annotations",
    "",
    "from typing import Any, Optional",
    "",
    "from runtime.base import InstanceBase",
    "",
    "",
    "class " ++ a.pyName ++ "(InstanceBase):",
    "    " ++ docstring ("Association class for " ++ a.relId ++ ": " ++ classNameOf m a.source ++
      " <-> " ++ classNameOf m a.target ++ "."),
    "",
    "    kl = " ++ stringLiteral a.keyLetters,
    "    model_name = " ++ stringLiteral a.name,
    "    is_association = True",
    "    rel_id = " ++ stringLiteral a.relId,
    ""]

/-- A new link has no ends yet. -/
def initializerBody (m : Model) (a : AssociationClass) : List String :=
  ["        super().__init__(rt, id)",
   "        self.set_attr(" ++ stringLiteral (endAttribute m a.source) ++ ", None)",
   "        self.set_attr(" ++ stringLiteral (endAttribute m a.target) ++ ", None)"] ++
  a.attributes.map attributeLine ++
  ["        rt.store.create(" ++ stringLiteral a.pyName ++ ", self._id, self)"]

def createLinkBody (m : Model) (a : AssociationClass) : List String := [
  "        " ++ docstring ("Creates the association instance and links both ends across " ++
    a.relId ++ "."),
  "        if from_inst is None or to_inst is None:",
  "            return None",
  "        assoc = cls(rt)",
  "        assoc.set_attr(" ++ stringLiteral (endAttribute m a.source) ++ ", from_inst)",
  "        assoc.set_attr(" ++ stringLiteral (endAttribute m a.target) ++ ", to_inst)",
  "        for key, value in attrs.items():",
  "            assoc.set_attr(key, value)",
  "        rt.links.relate_all(" ++ stringLiteral a.relId ++
    ", [(from_inst, assoc), (assoc, to_inst)])",
  "        return assoc"]

def associationLines (m : Model) (a : AssociationClass) : List String :=
  associationHead m a ++
  ["    def __init__(self, rt, id: Optional[str] = None):"] ++
  initializerBody m a ++ [
    "",
    "    @classmethod",
    "    def create_link(cls, rt, from_inst: Any, to_inst: Any, **attrs: Any) -> Optional[\"" ++
      a.pyName ++ "\"]:"] ++
  createLinkBody m a ++ [
    "",
    "    def get_from(self) -> Any:",
    "        return self.get_attr(" ++ stringLiteral (endAttribute m a.source) ++ ")",
    "",
    "    def get_to(self) -> Any:",
    "        return self.get_attr(" ++ stringLiteral (endAttribute m a.target) ++ ")"] ++
  namedGetters (getterName m a.source) (getterName m a.target)

def associationModule (m : Model) (a : AssociationClass) : Module := ⟨associationLines m a, []⟩

end ExecutableUml.Python
