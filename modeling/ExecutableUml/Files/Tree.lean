import ExecutableUml.Files.Path

/-! File trees held in memory, with the failures that reading and writing can meet. -/

namespace ExecutableUml

inductive PathFault where
  | notFound
  | alreadyExists
  | notDirectory
  | isDirectory
  | nameTooLong
  | nulInName
  | notText
  | system (message : String)
deriving DecidableEq, Repr

def PathFault.message : PathFault → String
  | .notFound => "No such file or directory (os error 2)"
  | .alreadyExists => "File exists (os error 17)"
  | .notDirectory => "Not a directory (os error 20)"
  | .isDirectory => "Is a directory (os error 21)"
  | .nameTooLong => "File name too long (os error 36)"
  | .nulInName => "file name contained an unexpected NUL byte"
  | .notText => "stream did not contain valid UTF-8"
  | .system message => message

/-- What a file holds: a text, or something that no text can be read from. The fault of reading does
not keep the file from being written. -/
inductive FileContent where
  | text (text : String)
  | unreadable (fault : PathFault)
deriving DecidableEq, Repr

instance : Coe String FileContent := ⟨.text⟩

/-- Files by place, in no order but each place once, the directories below the root, and the place
that relative paths start from. -/
structure FileTree where
  files : List (Path × FileContent)
  dirs : List Path
  workDir : Path
  distinct : (files.map Prod.fst).Nodup
deriving DecidableEq, Repr

namespace FileTree

def content? (t : FileTree) (p : Path) : Option FileContent := t.files.lookup p

def isFile (t : FileTree) (p : Path) : Bool := (t.content? p).isSome

def isDir (t : FileTree) (p : Path) : Bool := p.isEmpty || t.dirs.contains p

/-- A file takes the place of one that is there, or stands behind all others. -/
def setFile (p : Path) (content : FileContent) :
    List (Path × FileContent) → List (Path × FileContent)
  | [] => [(p, content)]
  | f :: fs => if p = f.1 then (p, content) :: fs else f :: setFile p content fs

theorem mem_places_setFile {p q : Path} {content : FileContent} {fs : List (Path × FileContent)}
    (h : q ∈ (setFile p content fs).map Prod.fst) : q = p ∨ q ∈ fs.map Prod.fst := by
  induction fs with
  | nil => exact .inl (List.mem_singleton.1 h)
  | cons f fs ih =>
    rw [setFile] at h
    split at h
    · exact (List.mem_cons.1 h).imp_right (List.mem_cons_of_mem _)
    · rcases List.mem_cons.1 h with rfl | h
      · exact .inr List.mem_cons_self
      · exact (ih h).imp_right (List.mem_cons_of_mem _)

theorem nodup_setFile (p : Path) (content : FileContent) {fs : List (Path × FileContent)}
    (h : (fs.map Prod.fst).Nodup) : ((setFile p content fs).map Prod.fst).Nodup := by
  induction fs with
  | nil => exact List.pairwise_singleton _ _
  | cons f fs ih =>
    obtain ⟨hf, hfs⟩ := List.nodup_cons.1 h
    rw [setFile]
    split
    · rename_i hp
      subst hp
      exact h
    · rename_i hp
      refine List.nodup_cons.2 ⟨fun hmem => ?_, ih hfs⟩
      rcases mem_places_setFile hmem with heq | hmem
      · exact hp heq.symm
      · exact hf hmem

def addDir (t : FileTree) (p : Path) : FileTree :=
  if t.isDir p then t else { t with dirs := t.dirs ++ [p] }

def addFile (t : FileTree) (p : Path) (content : FileContent) : FileTree :=
  { t with files := setFile p content t.files, distinct := nodup_setFile p content t.distinct }

/-- Every directory on the way to a place, and the place itself. -/
def ancestry (p : Path) : List Path := (List.range p.length).map fun n => p.take (n + 1)

/-- A directory with all directories above it. -/
def withDir (t : FileTree) (p : Path) : FileTree := (ancestry p).foldl addDir t

/-- A tree with nothing but the place that relative paths start from. -/
def startingAt (workDir : Path) : FileTree :=
  FileTree.withDir ⟨[], [], workDir, List.nodup_nil⟩ workDir

/-- A file with all directories above it. -/
def withFile (t : FileTree) (p : Path) (content : FileContent) : FileTree :=
  (t.withDir p.dropLast).addFile p content

/-- A name has at most this many bytes. -/
def longestName : Nat := 255

/-- A path text has at most this many bytes. -/
def longestPath : Nat := 4095

def isTooLong (name : String) : Bool := longestName < name.utf8ByteSize

/-- The place that a look-up ends at. All but the last name have to be directories. -/
def locateFrom (t : FileTree) (place : Path) : List String → Except PathFault Path
  | [] => .ok place
  | step :: steps =>
    if step = "." then t.locateFrom place steps
    else if step = ".." then t.locateFrom place.dropLast steps
    else if isTooLong step then .error .nameTooLong
    else if steps.isEmpty || t.isDir (place ++ [step]) then t.locateFrom (place ++ [step]) steps
    else .error (if t.isFile (place ++ [step]) then .notDirectory else .notFound)

/-- Where a path starts: a slash in front stands for the root. -/
def start (t : FileTree) (path : String) : Path := if path.startsWith "/" then [] else t.workDir

/-- What is wrong with a path text itself. -/
def textFault? (path : String) : Option PathFault :=
  if path.toList.contains '\x00' then some .nulInName
  else if longestPath < path.utf8ByteSize then some .nameTooLong
  else none

/-- The empty path leads nowhere. -/
def locate (t : FileTree) (path : String) : Except PathFault Path :=
  match textFault? path with
  | some fault => .error fault
  | none =>
    if path.isEmpty then .error .notFound else t.locateFrom (t.start path) (Path.steps path)

def leadsToDir (t : FileTree) (path : String) : Bool :=
  match t.locate path with
  | .ok place => t.isDir place
  | .error _ => false

def leadsToFile (t : FileTree) (path : String) : Bool :=
  match t.locate path with
  | .ok place => t.isFile place
  | .error _ => false

def readFile (t : FileTree) (path : String) : Except PathFault String := do
  let place ← t.locate path
  if t.isDir place then throw .isDirectory
  match t.content? place with
  | some (.text text) => return text
  | some (.unreadable fault) => throw fault
  | none => throw .notFound

/-- Makes one directory. The one that holds it has to be there, and it must not be there itself. -/
def makeDir (t : FileTree) (start : Path) (steps : List String) : Except PathFault FileTree := do
  let place ← t.locateFrom start (steps.dropLast ++ ["."])
  match steps.getLast? with
  | none => throw .alreadyExists
  | some name =>
    if name = "." || name = ".." then throw .alreadyExists
    if isTooLong name then throw .nameTooLong
    if t.isDir (place ++ [name]) || t.isFile (place ++ [name]) then throw .alreadyExists
    return t.addDir (place ++ [name])

/-- Makes one directory unless the steps lead to one. -/
def ensureDir (t : FileTree) (start : Path) (steps : List String) :
    FileTree × Except PathFault Unit :=
  match t.makeDir start steps with
  | .ok t => (t, .ok ())
  | .error fault =>
    match t.locateFrom start (steps ++ ["."]) with
    | .ok _ => (t, .ok ())
    | .error _ => (t, .error fault)

/-- Makes the first of the directories, after those that follow it if it lacks one to be in. What
is made before a failure stays. -/
def ensureDirs (t : FileTree) (start : Path) :
    List (List String) → FileTree × Except PathFault Unit
  | [] => (t, .ok ())
  | steps :: above =>
    match t.ensureDir start steps with
    | (_, .error .notFound) =>
      match t.ensureDirs start above with
      | (t, .ok ()) => t.ensureDir start steps
      | failed => failed
    | done => done

/-- Makes a directory with those above it. -/
def createDirs (t : FileTree) (path : String) : FileTree × Except PathFault Unit :=
  match textFault? path with
  | some fault => (t, .error fault)
  | none => t.ensureDirs (t.start path) (Path.chain path)

def writeFile (t : FileTree) (path content : String) : Except PathFault FileTree := do
  let place ← t.locate path
  if t.isDir place then throw .isDirectory
  return t.addFile place (.text content)

/-- Files below a place, by the names that lead to them from there. -/
def filesBelow (t : FileTree) (place : Path) : List Path :=
  t.files.filterMap fun f =>
    if place.isPrefixOf f.1 && place.length < f.1.length then some (f.1.drop place.length) else none

end FileTree

end ExecutableUml
