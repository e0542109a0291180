/-! Notes on action code that could only be compiled with an assumption. -/

namespace ExecutableUml

inductive NoteKind where
  | unknownMember
  | unresolvedReceiver
  | lateBoundClass
  | unparsed
deriving DecidableEq, Repr

/-- Notes that a strict compilation turns into a failure. -/
def NoteKind.isUnresolved : NoteKind → Bool
  | .unknownMember => true
  | .lateBoundClass => true
  | .unresolvedReceiver => false
  | .unparsed => false

structure Note where
  location : String
  kind : NoteKind
  message : String
deriving DecidableEq, Repr

namespace Note

/-- The note with its location moved below a parent. -/
def under (parent : String) (n : Note) : Note :=
  { n with location := if n.location.isEmpty then parent else parent ++ "." ++ n.location }

def display (n : Note) : String := "[" ++ n.location ++ "] " ++ n.message

def unknownMember (className member : String) (isCall : Bool) : Note :=
  ⟨"", .unknownMember, "class '" ++ className ++ "' has no " ++
    (if isCall then "operation" else "attribute") ++ " '" ++ member ++ "'"⟩

def unresolvedReceiver (receiver member : String) : Note :=
  ⟨"", .unresolvedReceiver, "'" ++ receiver ++ "." ++ member ++
    "' read as an attribute; the class of '" ++ receiver ++ "' is not known"⟩

def lateBoundClass (reference : String) : Note :=
  ⟨"", .lateBoundClass, "class '" ++ reference ++ "' is resolved at run time"⟩

def unparsed (line : String) : Note :=
  ⟨"", .unparsed, "statement not recognized: '" ++ line ++ "'"⟩

end Note

end ExecutableUml
