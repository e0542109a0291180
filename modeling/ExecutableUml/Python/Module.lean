import ExecutableUml.Action.Body
import ExecutableUml.Python.Literal

/-! Modules of the generated project: their lines, and the notes on the action code in them. -/

namespace ExecutableUml.Python

open Text ExecutableUml.Action

/-- What is written of a module, and the notes on it. A text of the model in one of the lines can
end the line there, so that the text of the module has more lines than were written. -/
structure Module where
  lines : List String
  notes : List Note
deriving DecidableEq, Repr

namespace Module

def append (a b : Module) : Module := ⟨a.lines ++ b.lines, a.notes ++ b.notes⟩

def concat (ms : List Module) : Module := ⟨ms.flatMap lines, ms.flatMap notes⟩

def text (m : Module) : String := String.join (m.lines.map (· ++ "\n"))

end Module

/-- The first two lines of every module. -/
def banner (path : String) : List String := ["# " ++ path, "# Generated by xtumlc. Do not edit."]

/-- Text inside a docstring: backslashes and three quotes in a row are escaped. -/
def docstringText (s : String) : String :=
  String.ofList (replaceAll "\"\"\"".toList "\\\"\\\"\\\"".toList
    (replaceAll ['\\'] ['\\', '\\'] s.toList))

def docstring (s : String) : String := "\"\"\"" ++ s ++ "\"\"\""

/-- Text inside a formatted string. -/
def formattedText (s : String) : String :=
  String.ofList (s.toList.flatMap fun c =>
    if c = '\x7b' then ['\x7b', '\x7b'] else if c = '\x7d' then ['\x7d', '\x7d']
    else if c = '"' then ['\''] else [c])

/-- `name: type = default` for each parameter; what else is given is collected. -/
def parameterList (ps : List Parameter) : String :=
  joinWith ", " (ps.map (fun p =>
    identifier p.name ++ ": " ++ p.type.annotation ++ " = " ++ p.type.parameterDefault) ++
    ["**kwargs"])

/-- Copies the parameters to where action code reads them. -/
def parameterBindings (indent : String) (ps : List Parameter) : List String :=
  ps.map fun p => indent ++ "kwargs[" ++ stringLiteral p.name ++ "] = " ++ identifier p.name

/-- A tuple of texts; one item needs a comma. -/
def tuple (items : List String) : String :=
  "(" ++ joinWith ", " items ++ (if items.length = 1 then ",)" else ")")

/-- The code of an action at an indentation, with notes located below `location`. Blank action text
has no code. -/
def actionBody (scope : Scope) (origins : List (String × String)) (indent location action : String) :
    Module :=
  if (trimmed action).isEmpty then ⟨[], []⟩
  else
    let t := compileBody scope origins action
    ⟨t.lines.map (Line.render indent), t.notes.map (Note.under location)⟩

def attributeLine (a : Attribute) : String :=
  "        self.set_attr(" ++ stringLiteral a.name ++ ", " ++ a.initializer ++ ")  # " ++ a.type.text

end ExecutableUml.Python
