import ExecutableUml.Json.Reader
import ExecutableUml.Report.Issue
import ExecutableUml.Report.Note

/-! The ways in which a compilation fails, with their texts. -/

namespace ExecutableUml

inductive Failure where
  | io (path message : String)
  | invalidJson (path : String) (error : Json.ReadError)
  | noModels (dir : String)
  | invalidModel (issues : List Issue)
  | unresolvedNames (notes : List Note)

namespace Failure

def message : Failure → String
  | .io path message => "I/O failure on '" ++ path ++ "': " ++ message
  | .invalidJson path e => "Invalid JSON in '" ++ path ++ "' at " ++ toString e.line ++ ":" ++
      toString e.column ++ ": " ++ e.message
  | .noModels dir => "No model documents found in '" ++ dir ++ "'"
  | .invalidModel issues =>
    "Model validation failed with " ++ toString issues.length ++ " issue(s)"
  | .unresolvedNames notes => toString notes.length ++ " unresolved reference(s) in action code"

def code : Failure → String
  | .io _ _ => "xtuml::io::failed"
  | .invalidJson _ _ => "xtuml::input::invalid_json"
  | .noModels _ => "xtuml::input::no_models"
  | .invalidModel _ => "xtuml::validate::failed"
  | .unresolvedNames _ => "xtuml::codegen::unresolved"

def help : Failure → Option String
  | .io _ _ => none
  | .invalidJson _ _ => some "The model document must be a single JSON object"
  | .noModels _ => some "Point the compiler at a .json model file or a directory containing some"
  | .invalidModel _ => some "Code is only generated from a model that passes validation"
  | .unresolvedNames _ => some
      "Declare the attribute or class, or compile without --strict to accept late binding"

def issues : Failure → List Issue
  | .invalidModel issues => issues
  | _ => []

end Failure

end ExecutableUml
