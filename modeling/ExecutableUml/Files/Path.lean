import ExecutableUml.Text.Trim

/-! Path texts: joining them, and the parts of the last name. -/

namespace ExecutableUml

open Text

/-- A place in a file tree: the names from the root down. -/
abbrev Path := List String

namespace Path

/-- The names in a path text, with the dots that stand for a directory itself left out. -/
def names (text : String) : Path :=
  ((splitAtChar '/' text.toList).map String.ofList).filter fun n => n != "" && n != "."

/-- The steps of a look-up: a slash at the end, like a dot, asks for a directory. -/
def steps (text : String) : Path :=
  let parts := (splitAtChar '/' text.toList).map String.ofList
  parts.filter (· != "") ++ (if parts.getLast? == some "" then ["."] else [])

/-- The ways to the directories that a path names, its own first. A dot after a name is part of the
path's own way and of the ways below it, but no directory is named by it. -/
def chain (text : String) : List (List String) :=
  let parts := ((splitAtChar '/' text.toList).map String.ofList).filter (· != "")
  let named := (List.range parts.length).map (fun n => parts.take (n + 1)) |>.filter fun way =>
    way.getLast? != some "." || (way.length == 1 && !text.startsWith "/")
  if parts.isEmpty then [] else parts :: named.reverse.drop 1

def join (dir name : String) : String :=
  if dir.isEmpty then name
  else if dir.toList.getLast? == some '/' then dir ++ name
  else dir ++ "/" ++ name

def joinAll (dir : String) (rest : Path) : String := rest.foldl join dir

/-- The last name, unless it leads upwards. -/
def fileName (text : String) : Option String :=
  (names text).getLast?.filter (· != "..")

/-- The parts of a name before and after its last dot. A dot in front does not count. -/
def splitName (name : String) : String × Option String :=
  match cutAtLastChar '.' name.toList with
  | some (stem, ext) =>
    if stem.isEmpty then (name, none) else (String.ofList stem, some (String.ofList ext))
  | none => (name, none)

def fileStem (text : String) : Option String := (fileName text).map fun n => (splitName n).1

def fileExtension (text : String) : Option String := (fileName text).bind fun n => (splitName n).2

/-- Puts a path into an ordered list. Paths are compared name by name. -/
def insertPath (p : Path) : List Path → List Path
  | [] => [p]
  | q :: qs => if q < p then q :: insertPath p qs else p :: q :: qs

def sorted (paths : List Path) : List Path := paths.foldr insertPath []

end Path

end ExecutableUml
