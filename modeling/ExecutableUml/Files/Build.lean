import ExecutableUml.Compilation
import ExecutableUml.Files.Tree

/-! Compiling the documents of a file tree. All documents are compiled before anything is
written. -/

namespace ExecutableUml

/-- What to compile, and where the projects go. -/
structure Job where
  input : String
  outDir : String
  options : Options
deriving DecidableEq, Repr

/-- A document and the directory of its project. -/
structure Source where
  path : String
  outDir : String
deriving DecidableEq, Repr

structure CompiledModel where
  source : Source
  project : Python.Project
deriving DecidableEq, Repr

structure Summary where
  models : Nat
  files : Nat
  notes : List Note
  outputs : List String
deriving DecidableEq, Repr

/-- A failure at a path. -/
def atPath {α : Type} (path : String) : Except PathFault α → Except Failure α
  | .ok a => .ok a
  | .error fault => .error (.io path fault.message)

namespace FileTree

def isModelFile (path : String) : Bool := Path.fileExtension path == some "json"

/-- The documents at or below a path, in the order of their paths. A file below it may have a path
that is too long to lead to it. -/
def discover (t : FileTree) (path : String) : Except Failure (List String) :=
  let found := match t.locate path with
    | .ok place => if t.isDir place then t.filesBelow place else [[]]
    | .error _ => []
  let models := found.filter fun rest =>
    t.leadsToFile (Path.joinAll path rest) && isModelFile (Path.joinAll path rest)
  if models.isEmpty then .error (.noModels path)
  else .ok ((Path.sorted models).map (Path.joinAll path))

end FileTree

namespace Job

/-- The documents of a job. Below a directory each has a project of its own. -/
def sources (j : Job) (t : FileTree) : Except Failure (List Source) :=
  if t.leadsToDir j.input then do
    let found ← t.discover j.input
    return found.map fun path => ⟨path, Path.join j.outDir ((Path.fileStem path).getD "model")⟩
  else .ok [⟨j.input, j.outDir⟩]

def load (t : FileTree) (path : String) : Except Failure Json := do
  let text ← atPath path (t.readFile path)
  match Json.read text with
  | .ok doc => return doc
  | .error e => throw (.invalidJson path e)

def compileSource (j : Job) (t : FileTree) (s : Source) : Except Failure CompiledModel := do
  return ⟨s, ← compileDocument j.options (← load t s.path)⟩

/-- The projects of all documents. -/
def build (j : Job) (t : FileTree) : Except Failure (List CompiledModel) := do
  (← j.sources t).mapM (j.compileSource t)

def checkSource (t : FileTree) (s : Source) : Except Failure Unit := do
  validate (← load t s.path)

/-- The number of documents, if all of them are valid. -/
def check (j : Job) (t : FileTree) : Except Failure Nat := do
  let sources ← j.sources t
  let _ ← sources.mapM (checkSource t)
  return sources.length

end Job

/-- The directory part of the path of a generated file. -/
def directoryOf (outDir path : String) : String :=
  Path.joinAll outDir (Path.names path).dropLast

/-- Writes one file, in a directory that is made for it. -/
def writeGenerated (t : FileTree) (outDir path content : String) :
    FileTree × Except Failure Unit :=
  match t.createDirs (directoryOf outDir path) with
  | (t, .error fault) => (t, atPath (directoryOf outDir path) (.error fault))
  | (t, .ok ()) =>
    match t.writeFile (Path.join outDir path) content with
    | .ok t => (t, .ok ())
    | .error fault => (t, atPath (Path.join outDir path) (.error fault))

/-- Writes files one by one; what is written before a failure stays. -/
def writeFiles (outDir : String) (t : FileTree) :
    List (String × String) → FileTree × Except Failure Unit
  | [] => (t, .ok ())
  | (path, content) :: rest =>
    match writeGenerated t outDir path content with
    | (t, .ok ()) => writeFiles outDir t rest
    | failed => failed

def writeProject (t : FileTree) (m : CompiledModel) : FileTree × Except Failure Unit :=
  match t.createDirs m.source.outDir with
  | (t, .ok ()) => writeFiles m.source.outDir t m.project.files
  | (t, .error fault) => (t, atPath m.source.outDir (.error fault))

def writeProjects (t : FileTree) : List CompiledModel → FileTree × Except Failure Unit
  | [] => (t, .ok ())
  | m :: ms =>
    match writeProject t m with
    | (t, .ok ()) => writeProjects t ms
    | failed => failed

def Summary.ofModels (ms : List CompiledModel) : Summary where
  models := ms.length
  files := ms.foldr (fun m n => m.project.files.length + n) 0
  notes := ms.flatMap fun m => m.project.notes
  outputs := ms.map fun m => m.source.outDir

/-- Writes the projects and sums them up. -/
def writeAll (t : FileTree) (ms : List CompiledModel) : FileTree × Except Failure Summary :=
  match writeProjects t ms with
  | (t, .ok ()) => (t, .ok (Summary.ofModels ms))
  | (t, .error e) => (t, .error e)

def Job.compile (j : Job) (t : FileTree) : FileTree × Except Failure Summary :=
  match j.build t with
  | .ok ms => writeAll t ms
  | .error e => (t, .error e)

end ExecutableUml
