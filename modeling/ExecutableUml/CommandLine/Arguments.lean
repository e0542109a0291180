import ExecutableUml.Files.Build

/-! Reading the arguments of the command line. -/

namespace ExecutableUml.CommandLine

open Text

inductive Format where
  | human
  | json
deriving DecidableEq, Repr

inductive Command where
  | compile (job : Job) (toScreen : Bool)
  | check (input : String) (format : Format)
  | watch (input output : String)
deriving DecidableEq, Repr

/-- What can be helped with: the program, or one of its commands. -/
inductive Topic where
  | program
  | compile
  | check
  | watch
  | help
deriving DecidableEq, Repr

/-- Why the arguments do not give a command. -/
inductive Stop where
  | help (topic : Topic)
  | badUsage
deriving DecidableEq, Repr

/-- What the value of an option has to be. -/
inductive ValueKind where
  | text
  | path
  | format
deriving DecidableEq, Repr

def Format.named? : String → Option Format
  | "human" => some .human
  | "json" => some .json
  | _ => none

def ValueKind.accepts : ValueKind → String → Bool
  | .text, _ => true
  | .path, value => !value.isEmpty
  | .format, value => (Format.named? value).isSome

/-- An option: its long name, its short name, and the kind of its value, if it has one. -/
structure OptionSpec where
  long : String
  short : Option Char
  value : Option ValueKind
deriving DecidableEq, Repr

def verboseOption : OptionSpec := ⟨"verbose", some 'v', none⟩

def helpOption : OptionSpec := ⟨"help", some 'h', none⟩

def outputOption : OptionSpec := ⟨"output", some 'o', some .path⟩

def nameOption : OptionSpec := ⟨"name", none, some .text⟩

def stdoutOption : OptionSpec := ⟨"stdout", none, none⟩

def strictOption : OptionSpec := ⟨"strict", none, none⟩

def formatOption : OptionSpec := ⟨"format", none, some .format⟩

def compileOptions : List OptionSpec :=
  [verboseOption, helpOption, outputOption, nameOption, stdoutOption, strictOption]

def checkOptions : List OptionSpec := [verboseOption, helpOption, formatOption]

def watchOptions : List OptionSpec := [verboseOption, helpOption, outputOption]

/-- What the arguments of a command hold, and what a request for help is about. -/
structure Given where
  topic : Topic
  options : List (String × Option String)
  input : Option String
deriving DecidableEq, Repr

namespace Given

def none (topic : Topic) : Given := ⟨topic, [], Option.none⟩

def has (g : Given) (s : OptionSpec) : Bool := g.options.any fun o => o.1 == s.long

def value? (g : Given) (s : OptionSpec) : Option String := (g.options.lookup s.long).join

/-- An option may stand once. -/
def put (g : Given) (s : OptionSpec) (value : Option String) : Except Stop Given :=
  if g.has s then .error .badUsage else .ok { g with options := g.options ++ [(s.long, value)] }

/-- An option without a value. A request for help ends the reading. -/
def addFlag (g : Given) (s : OptionSpec) : Except Stop Given :=
  if s = helpOption then .error (.help g.topic) else g.put s Option.none

/-- An option with a value, which is checked at once. -/
def addValue (g : Given) (s : OptionSpec) (kind : ValueKind) (value : String) :
    Except Stop Given :=
  if kind.accepts value then g.put s (some value) else .error .badUsage

/-- Every command takes one word, which is a path. -/
def addWord (g : Given) (word : String) : Except Stop Given :=
  if g.input.isNone && ValueKind.path.accepts word then .ok { g with input := some word }
  else .error .badUsage

def inputPath (g : Given) : Except Stop String :=
  match g.input with
  | some path => .ok path
  | Option.none => .error .badUsage

def outputPath (g : Given) : String := (g.value? outputOption).getD "generated"

def format (g : Given) : Format := ((g.value? formatOption).bind Format.named?).getD .human

end Given

/-- Whether an argument is read as an option. A single dash is a word. -/
def looksLikeOption (arg : List Char) : Bool := arg.head? == some '-' && 1 < arg.length

/-- An option that waits for its value in the next argument. -/
abbrev Waiting := Option (OptionSpec × ValueKind)

/-- `--name` or `--name=value`. -/
def longOption (specs : List OptionSpec) (g : Given) (text : List Char) :
    Except Stop (Given × Waiting) :=
  let (name, value) := match cutAtChar '=' text with
    | some (name, value) => (String.ofList name, some (String.ofList value))
    | none => (String.ofList text, none)
  match specs.find? fun s => s.long == name with
  | none => .error .badUsage
  | some s =>
    match s.value, value with
    | some kind, some value => do return (← g.addValue s kind value, none)
    | some kind, none => .ok (g, some (s, kind))
    | none, some _ => .error .badUsage
    | none, none => do return (← g.addFlag s, none)

/-- Short options in one argument. The first one with a value takes the rest of it. -/
def shortOptions (specs : List OptionSpec) (g : Given) :
    List Char → Except Stop (Given × Waiting)
  | [] => .ok (g, none)
  | c :: rest =>
    match specs.find? fun s => s.short == some c with
    | none => .error .badUsage
    | some s =>
      match s.value with
      | none => do shortOptions specs (← g.addFlag s) rest
      | some kind =>
        match rest with
        | [] => .ok (g, some (s, kind))
        | '=' :: value => do return (← g.addValue s kind (String.ofList value), none)
        | value => do return (← g.addValue s kind (String.ofList value), none)

/-- Reads the arguments of a command from the left, up to the first thing that stops it. -/
def readArguments (specs : List OptionSpec) (g : Given) (waiting : Waiting) :
    List String → Except Stop Given
  | [] => if waiting.isSome then .error .badUsage else .ok g
  | arg :: args =>
    match waiting with
    | some (s, kind) =>
      if looksLikeOption arg.toList then .error .badUsage
      else do readArguments specs (← g.addValue s kind arg) none args
    | none =>
      match arg.toList with
      | ['-', '-'] => args.foldlM Given.addWord g
      | '-' :: '-' :: text => do
        let (g, waiting) ← longOption specs g text
        readArguments specs g waiting args
      | '-' :: c :: text => do
        let (g, waiting) ← shortOptions specs g (c :: text)
        readArguments specs g waiting args
      | _ => do readArguments specs (← g.addWord arg) none args

def compileCommand (args : List String) : Except Stop Command := do
  let g ← readArguments compileOptions (.none .compile) none args
  let options := ⟨g.value? nameOption, g.has strictOption⟩
  return .compile ⟨← g.inputPath, g.outputPath, options⟩ (g.has stdoutOption)

def checkCommand (args : List String) : Except Stop Command := do
  let g ← readArguments checkOptions (.none .check) none args
  return .check (← g.inputPath) g.format

def watchCommand (args : List String) : Except Stop Command := do
  let g ← readArguments watchOptions (.none .watch) none args
  return .watch (← g.inputPath) g.outputPath

def topicNamed : String → Option Topic
  | "compile" => some .compile
  | "check" => some .check
  | "watch" => some .watch
  | "help" => some .help
  | _ => none

/-- `help` by itself is about the program; it takes the name of one command. -/
def helpCommand : List String → Stop
  | [] => .help .program
  | [name] => ((topicNamed name).map Stop.help).getD .badUsage
  | _ => .badUsage

/-- Options in front of the command, then the command with its own arguments. -/
def parseFrom (g : Given) : List String → Except Stop Command
  | [] => .error .badUsage
  | arg :: args =>
    match arg.toList with
    | ['-', '-'] => .error .badUsage
    | '-' :: '-' :: text => do
      let (g, _) ← longOption [verboseOption, helpOption] g text
      parseFrom g args
    | '-' :: c :: text => do
      let (g, _) ← shortOptions [verboseOption, helpOption] g (c :: text)
      parseFrom g args
    | _ =>
      match arg with
      | "compile" => compileCommand args
      | "check" => checkCommand args
      | "watch" => watchCommand args
      | "help" => .error (helpCommand args)
      | _ => .error .badUsage

def parse (args : List String) : Except Stop Command := parseFrom (.none .program) args

end ExecutableUml.CommandLine
