import ExecutableUml.Python.AssociationModule
import ExecutableUml.Python.Index
import ExecutableUml.Python.Support.Base
import ExecutableUml.Python.Support.Package
import ExecutableUml.Python.Support.Relationship
import ExecutableUml.Python.Support.Services
import ExecutableUml.Python.Support.StateMachine
import ExecutableUml.Python.Support.Storage

/-! The generated project: its files by path, and the notes on the action code in them. -/

namespace ExecutableUml.Python

open Text ExecutableUml.Action

/-- The modules that every project has, in the order in which they are shown. -/
def supportModules : List (String × List String) :=
  [("runtime/__init__.py", Support.packageInit),
   ("runtime/base.py", Support.base),
   ("runtime/storage.py", Support.storage),
   ("runtime/relationship.py", Support.relationship),
   ("runtime/state_machine.py", Support.stateMachine),
   ("runtime/services.py", Support.services)]

structure Project where
  files : List (String × String)
  notes : List Note
deriving DecidableEq, Repr

/-- The modules of a model with their paths. A later one replaces an earlier one of the same
path. -/
def modules (m : Model) : List (String × Module) :=
  let symbols := SymbolTable.ofModel m
  supportModules.map (fun (path, lines) => (path, ⟨lines, []⟩)) ++
  m.classes.mapIdx (fun id c => ("models/" ++ c.pyName ++ ".py", classModule m symbols id c)) ++
  m.associations.map (fun a => ("models/" ++ a.pyName ++ ".py", associationModule m a)) ++
  [("models/__init__.py", ⟨indexLines m, []⟩)] ++
  (if m.functions.isEmpty then [] else [("functions.py", functionsModule m symbols)]) ++
  [("app.py", ⟨appLines m, []⟩)]

namespace Project

/-- Files are sorted by path. -/
def ofModel (m : Model) : Project :=
  let ms := modules m
  ⟨Json.sortFields (ms.map fun (path, x) => (path, x.text)), ms.flatMap fun (_, x) => x.notes⟩

/-- Notes that name something the model does not declare. -/
def unresolved (p : Project) : List Note := p.notes.filter fun n => n.kind.isUnresolved

def under (dir path : String) : Bool := startsWith dir.toList path.toList

/-- Paths in the order in which the files are shown: support modules, models, the rest, and the
entry point last. -/
def shownPaths (p : Project) : List String :=
  let paths := p.files.map Prod.fst
  (supportModules.map Prod.fst).filter paths.contains ++
  paths.filter (under "models/") ++
  paths.filter (fun path => !under "runtime/" path && !under "models/" path && path != "app.py") ++
  paths.filter (· == "app.py")

def rule : String := "# " ++ String.ofList (List.replicate 70 '=') ++ "\n"

/-- One file under its path, with an empty line behind it. -/
def shownFile (path text : String) : String :=
  let ending := match text.toList.getLast? with
    | some c => if c = '\n' then "" else "\n"
    | none => ""
  rule ++ "# " ++ path ++ "\n" ++ rule ++ text ++ ending ++ "\n"

def preview (p : Project) : String :=
  String.join (p.shownPaths.map fun path => shownFile path ((p.files.lookup path).getD ""))

end Project

end ExecutableUml.Python
