import ExecutableUml.CommandLine.Arguments
import ExecutableUml.CommandLine.Screen

/-! Running a command on a file tree. -/

namespace ExecutableUml.CommandLine

/-- What a command leaves: its exit code, the screen, and the files. -/
structure Result where
  exitCode : Nat
  screen : List ScreenLine
  tree : FileTree
deriving DecidableEq, Repr

/-- Text that is shown as it is; the last line needs no line end of its own. -/
def shown (text : String) : List ScreenLine :=
  if text.isEmpty then [] else [plain (String.ofList text.toList.dropLast)]

def runCompile (job : Job) (t : FileTree) : Result :=
  match job.build t with
  | .error e => ⟨1, rejectedLines e, t⟩
  | .ok ms =>
    match writeAll t ms with
    | (t, .ok s) => ⟨0, compiledLines ms s, t⟩
    | (t, .error _) => ⟨1, [], t⟩

/-- Shows every project instead of writing it. -/
def runShow (job : Job) (t : FileTree) : Result :=
  match job.build t with
  | .error _ => ⟨1, [], t⟩
  | .ok ms => ⟨0, shown (String.join (ms.map fun m => m.project.preview)), t⟩

def jobFor (input output : String) : Job := ⟨input, output, ⟨none, false⟩⟩

def runCheck (input : String) (format : Format) (t : FileTree) : Result :=
  let outcome := (jobFor input "generated").check t
  match format, outcome with
  | .json, .ok _ => ⟨0, [plain (checkReport outcome).pretty], t⟩
  | .json, .error _ => ⟨1, [plain (checkReport outcome).pretty], t⟩
  | .human, .ok count => ⟨0, validLines count, t⟩
  | .human, .error e => ⟨1, rejectedLines e, t⟩

/-- Whether there is something to watch: the directory, or the one that holds the file. -/
def canWatch (t : FileTree) (input : String) : Bool :=
  t.leadsToDir input ||
    match t.locateFrom (t.start input) (Path.names input).dropLast with
    | .ok place => t.isDir place || t.isFile place
    | .error _ => false

def watchingLines (input : String) : List ScreenLine := [plain (info ("Watching " ++ input)), blank]

def readyLine : ScreenLine := plain (info "Ready! Waiting for changes...")

/-- Compiles once and is stopped while it waits for changes. -/
def runWatch (input output : String) (t : FileTree) : Result :=
  if canWatch t input then
    let (t, outcome) := (jobFor input output).compile t
    ⟨0, watchingLines input ++ recompiledLines outcome ++
      [readyLine, blank, plain (dim "Stopping watch mode.")], t⟩
  else ⟨1, watchingLines input, t⟩

def inputHelp : List String :=
  ["Arguments:",
   "  <INPUT>  Model document or directory of documents",
   ""]

/-- The help on the program or on a command. -/
def helpText : Topic → List String
  | .program =>
    ["Compile xtUML model documents into runnable Python projects",
     "",
     "Usage: xtumlc [OPTIONS] <COMMAND>",
     "",
     "Commands:",
     "  compile  Compile a model document (or a directory of them) to Python",
     "  check    Validate model documents without generating code",
     "  watch    Recompile whenever the input changes",
     "  help     Print this message or the help of the given subcommand(s)",
     "",
     "Options:",
     "  -v, --verbose  Log compiler internals to stderr",
     "  -h, --help     Print help"]
  | .compile =>
    ["Compile a model document (or a directory of them) to Python",
     "",
     "Usage: xtumlc compile [OPTIONS] <INPUT>",
     ""] ++ inputHelp ++
    ["Options:",
     "  -o, --output <OUTPUT>  Output directory for the generated project [default: generated]",
     "  -v, --verbose          Log compiler internals to stderr",
     "      --name <NAME>      Override the model name used in the generated app",
     "      --stdout           Print every generated file instead of writing them",
     "      --strict           Fail on unresolved attribute or class references",
     "  -h, --help             Print help"]
  | .check =>
    ["Validate model documents without generating code",
     "",
     "Usage: xtumlc check [OPTIONS] <INPUT>",
     ""] ++ inputHelp ++
    ["Options:",
     "      --format <FORMAT>  Output format [default: human] [possible values: human, json]",
     "  -v, --verbose          Log compiler internals to stderr",
     "  -h, --help             Print help"]
  | .watch =>
    ["Recompile whenever the input changes",
     "",
     "Usage: xtumlc watch [OPTIONS] <INPUT>",
     ""] ++ inputHelp ++
    ["Options:",
     "  -o, --output <OUTPUT>  Output directory for the generated project [default: generated]",
     "  -v, --verbose          Log compiler internals to stderr",
     "  -h, --help             Print help"]
  | .help =>
    ["Print this message or the help of the given subcommand(s)",
     "",
     "Usage: xtumlc help [COMMAND]...",
     "",
     "Arguments:",
     "  [COMMAND]...  Print help for the subcommand(s)"]

def run (args : List String) (t : FileTree) : Result :=
  match parse args with
  | .error .badUsage => ⟨2, [], t⟩
  | .error (.help topic) => ⟨0, (helpText topic).map plain, t⟩
  | .ok (.compile job false) => runCompile job t
  | .ok (.compile job true) => runShow job t
  | .ok (.check input format) => runCheck input format t
  | .ok (.watch input output) => runWatch input output t

end ExecutableUml.CommandLine
