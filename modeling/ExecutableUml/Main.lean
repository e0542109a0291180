import ExecutableUml.CommandLine.Run

/-! The program: it loads the files that a command is about, runs the command on them, and puts
what has changed back on the disk. -/

namespace ExecutableUml.Program

open CommandLine

/-- The path text of a place. -/
def diskPath (place : Path) : String := "/" ++ Text.joinWith "/" place

/-- The fault behind an error of the system. -/
def faultOf : IO.Error → PathFault
  | .permissionDenied _ code details =>
    .system (details ++ " (os error " ++ toString code ++ ")")
  | e => .system (toString e)

def readContent (file : String) : IO FileContent := do
  try
    let bytes ← IO.FS.readBinFile file
    return match String.fromUTF8? bytes with
      | some text => .text text
      | none => .unreadable .notText
  catch e => return .unreadable (faultOf e)

/-- Adds what stands at a place and below it to the tree. -/
partial def load (tree : FileTree) (place : Path) : IO FileTree := do
  let here := (← IO.currentDir) / diskPath place
  if ← here.isDir then
    let mut tree := tree.withDir place
    for entry in ← here.readDir do
      tree ← load tree (place ++ [entry.fileName])
    return tree
  if ← here.pathExists then
    return tree.withFile place (← readContent here.toString)
  let parent := (← IO.currentDir) / diskPath place.dropLast
  return if ← parent.isDir then tree.withDir place.dropLast else tree

/-- The place of a path, taken from a directory; it need not exist. -/
def placeOf (workDir : Path) (path : String) : Path :=
  (Path.names path).foldl
    (fun place name => if name = ".." then place.dropLast else place ++ [name])
    (if path.startsWith "/" then [] else workDir)

/-- The places a command reads and writes. -/
def places (workDir : Path) : Command → List Path
  | .compile job _ => [placeOf workDir job.input, placeOf workDir job.outDir]
  | .check input _ => [placeOf workDir input]
  | .watch input output => [placeOf workDir input, placeOf workDir output]

/-- The part of the disk that the arguments are about. -/
def loadFor (args : List String) : IO FileTree := do
  let workDir := Path.names (← IO.currentDir).toString
  match parse args with
  | .error _ => return .startingAt workDir
  | .ok command => (places workDir command).foldlM load (.startingAt workDir)

/-- Puts the directories and files on the disk that are not in the earlier tree as they are. -/
def save (before after : FileTree) : IO Unit := do
  for place in after.dirs do
    if !before.isDir place then IO.FS.createDirAll (diskPath place)
  for (place, content) in after.files do
    if let .text text := content then
      if before.content? place != some content then
        IO.FS.createDirAll (diskPath place.dropLast)
        IO.FS.writeFile (diskPath place) text

def printLines (started : Nat) (lines : List ScreenLine) : IO Unit := do
  IO.print (render (toString ((← IO.monoMsNow) - started)) lines)
  (← IO.getStdout).flush

/-- Compiles again whenever a document has changed, until the program is stopped. -/
partial def watch (args : List String) (job : Job) (seen : List (Path × FileContent)) : IO Unit := do
  IO.sleep 500
  let tree ← loadFor args
  let documents := tree.files.filter fun f => FileTree.isModelFile (diskPath f.1)
  if documents == seen then watch args job seen
  else
    let started ← IO.monoMsNow
    let (after, outcome) := job.compile tree
    save tree after
    printLines started ([blank] ++ recompiledLines outcome ++ [blank, readyLine])
    watch args job documents

end ExecutableUml.Program

open ExecutableUml CommandLine Program in
def main (args : List String) : IO UInt32 := do
  let started ← IO.monoMsNow
  let tree ← loadFor args
  match parse args with
  | .ok (.watch input output) =>
    printLines started (watchingLines input)
    if !canWatch tree input then return 1
    let job := jobFor input output
    let (after, outcome) := job.compile tree
    save tree after
    printLines started (recompiledLines outcome ++ [readyLine])
    watch args job (after.files.filter fun f => FileTree.isModelFile (diskPath f.1))
    return 0
  | _ =>
    let result := run args tree
    save tree result.tree
    printLines started result.screen
    return UInt32.ofNat result.exitCode
