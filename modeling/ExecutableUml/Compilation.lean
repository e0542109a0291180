import ExecutableUml.Python.Project
import ExecutableUml.Report.Failure
import ExecutableUml.Validation.Actions

/-! From a document to a project. Only a document without issues has one, and a strict compilation
also refuses notes on names that the model does not declare. -/

namespace ExecutableUml

structure Options where
  modelName : Option String
  strict : Bool
deriving DecidableEq, Repr

def validate (doc : Json) : Except Failure Unit :=
  let issues := Document.issues doc
  if issues.isEmpty then .ok () else .error (.invalidModel issues)

/-- The model with the name that the options give it. -/
def Options.model (o : Options) (doc : Json) : Model :=
  let m := Model.ofDocument doc
  { m with name := o.modelName.getD m.name }

def compileDocument (o : Options) (doc : Json) : Except Failure Python.Project := do
  validate doc
  let project := Python.Project.ofModel (o.model doc)
  if o.strict && !project.unresolved.isEmpty then .error (.unresolvedNames project.unresolved)
  else .ok project

end ExecutableUml
