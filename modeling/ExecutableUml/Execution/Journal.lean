/-! What an execution leaves behind for a reader: log records, and marks set by model code. -/

namespace ExecutableUml.Execution

inductive Level where
  | info
  | warn
deriving DecidableEq, Repr

inductive Entry where
  | record (level : Level) (fields : List (String × String))
  | mark (text : String)
deriving DecidableEq, Repr

end ExecutableUml.Execution
