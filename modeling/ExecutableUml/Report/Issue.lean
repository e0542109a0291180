/-! Issues: what is wrong with a document, where, and what may help. -/

namespace ExecutableUml

structure Issue where
  path : String
  message : String
  hint : Option String
deriving DecidableEq, Repr

def Issue.display (i : Issue) : String := "[" ++ i.path ++ "] " ++ i.message

end ExecutableUml
