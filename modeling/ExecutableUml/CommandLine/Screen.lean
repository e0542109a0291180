import ExecutableUml.Files.Build
import ExecutableUml.Text.Terminal

/-! What is written to the screen, line by line. -/

namespace ExecutableUml.CommandLine

open Text

/-- A part of a line: text, or the time that the work took. -/
inductive Segment where
  | text (s : String)
  | elapsed
deriving DecidableEq, Repr

abbrev ScreenLine := List Segment

/-- The text of lines, given the text for the time. -/
def render (elapsed : String) (lines : List ScreenLine) : String :=
  String.join (lines.map fun line =>
    String.join (line.map fun part =>
      match part with
      | .text s => s
      | .elapsed => elapsed) ++ "\n")

def plain (s : String) : ScreenLine := [.text s]

def blank : ScreenLine := plain ""

def repeated (n : Nat) (c : Char) : String := String.ofList (List.replicate n c)

def success (message : String) : String := "  ◉ " ++ message

def failure (message : String) : String := "  ◆ " ++ message

def info (message : String) : String := "  ◇ " ++ message

def dim (message : String) : String := "  " ++ message

/-- The box takes this many columns. -/
def boxWidth : Nat := 55

def boxHeader (title : String) : String :=
  "  ╭─ " ++ title ++ " " ++ repeated (boxWidth - (width title + 5)) '─' ++ "╮"

/-- A line that is too long pushes the edge out. -/
def boxLine (content : String) : String :=
  "  │ " ++ content ++ repeated (boxWidth - 3 - width content) ' ' ++ "│"

def boxFooter : String := "  ╰" ++ repeated (boxWidth - 2) '─' ++ "╯"

/-- `value` out of `top`, in eight cells. -/
def meter (value top : Nat) : String :=
  let filled := min 8 (value * 8 / max 1 top)
  repeated filled '▰' ++ repeated (8 - filled) '▱'

def padEnd (n : Nat) (s : String) : String := s ++ repeated (n - s.length) ' '

def padStart (n : Nat) (s : String) : String := repeated (n - s.length) ' ' ++ s

def modelLine (name : String) (files notes most : Nat) : String :=
  "▸ " ++ padEnd 14 name ++ " " ++ padStart 3 (toString files) ++ " files  " ++ meter files most ++
    "  " ++ (if notes = 0 then "clean" else toString notes ++ " note(s)")

def noteLine (n : Note) : ScreenLine := plain ("  · " ++ n.location ++ " " ++ n.message)

def issueLines (i : Issue) : List ScreenLine :=
  plain (failure (i.path ++ " " ++ i.message)) ::
    match i.hint with
    | some hint => [plain ("      " ++ hint)]
    | none => []

/-- The name of a model in the box. -/
def modelLabel (m : CompiledModel) : String := (Path.fileStem m.source.path).getD "model"

def boxOf (ms : List CompiledModel) : List ScreenLine :=
  let most := (ms.map fun m => m.project.files.length).foldl max 0
  [plain (boxHeader "MODELS"), plain (boxLine "")] ++
  ms.map (fun m => plain (boxLine
    (modelLine (modelLabel m) m.project.files.length m.project.notes.length most))) ++
  [plain (boxLine ""), plain boxFooter]

def noteSection (ns : List Note) : List ScreenLine :=
  if ns.isEmpty then []
  else [blank, plain (info "Translation notes:")] ++ ns.map noteLine

/-- What a compilation that succeeded shows. -/
def compiledLines (ms : List CompiledModel) (s : Summary) : List ScreenLine :=
  boxOf ms ++ noteSection s.notes ++
  [blank,
   [.text (info ("Wrote " ++ toString s.files ++ " file(s) for " ++ toString s.models ++
      " model(s) in ")), .elapsed, .text "ms"]] ++
  s.outputs.map (fun dir => plain (dim ("python " ++ Path.join dir "app.py"))) ++
  [blank]

/-- What a rejected model shows. -/
def rejectedLines (e : Failure) : List ScreenLine :=
  [blank, plain (failure "Model rejected."), blank] ++ e.issues.flatMap issueLines ++
  (if e.issues.isEmpty then [] else [blank])

def validLines (count : Nat) : List ScreenLine :=
  [plain (success "Model is valid."), plain (dim (toString count ++ " document(s) checked"))]

def issueJson (i : Issue) : Json :=
  .ofFields [("path", .string i.path), ("message", .string i.message),
    ("hint", Json.optional .string i.hint)]

/-- The outcome of a check as a document. -/
def checkReport : Except Failure Nat → Json
  | .ok count => .ofFields [("valid", .bool true), ("models", .nat count), ("issues", .array [])]
  | .error e => .ofFields [("valid", .bool false), ("error", .string e.message),
      ("issues", Json.list issueJson e.issues)]

/-- What one compilation shows while watching. -/
def recompiledLines : Except Failure Summary → List ScreenLine
  | .ok s =>
    [.text (success ("Compiled " ++ toString s.models ++ " model(s), " ++ toString s.files ++
      " file(s) in ")), .elapsed, .text "ms"] :: s.notes.map noteLine
  | .error e => plain (failure e.message) :: e.issues.flatMap issueLines

end ExecutableUml.CommandLine
