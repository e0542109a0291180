import ExecutableUml.Document.Model

/-! What a document declares, in lower case: the classes that a reference may mean, and the names
that action text may use. -/

namespace ExecutableUml

open Text

/-- The lower case id, name and key letters of each entry of the list of classes. -/
abbrev Registry := List (List String)

namespace Registry

def keysOf (entry : Json) : List String :=
  (["class_id", "class_name", "KL"].filterMap fun key => Document.text entry [key]).map lower

def ofDocument (doc : Json) : Registry := (Document.classes doc).map keysOf

/-- Place of the first class with that text among its keys. -/
def index (r : Registry) (reference : String) : Option Nat :=
  r.findIdx? fun keys => keys.contains (lower (trimmed reference))

def resolves (r : Registry) (reference : String) : Bool := (r.index reference).isSome

end Registry

/-- Names that action text may use, in lower case. -/
structure References where
  classes : List String
  relationships : List String
  events : List String
deriving DecidableEq, Repr

namespace References

def hasClass (r : References) (reference : String) : Bool :=
  r.classes.contains (lower (trimmed reference))

def hasRelationship (r : References) (relId : String) : Bool :=
  r.relationships.contains (lower (trimmed relId))

def hasEvent (r : References) (name : String) : Bool := r.events.contains (lower (trimmed name))

end References

namespace Document

/-- The ends of a relationship as they are checked: a generalization takes its own fields first. -/
def checkedEnds (rel : Json) : Option String × Option String :=
  if isGeneralization rel then
    ((generalizationEnds rel).1 <|> text rel fromKeys, (generalizationEnds rel).2 <|> text rel toKeys)
  else (text rel fromKeys, text rel toKeys)

/-- The `class_name` at a place of the list of classes. -/
def classNameAt (doc : Json) (i : Nat) : Option String :=
  ((classes doc)[i]?).bind fun c => text c ["class_name"]

/-- The lower case name of the class that a many-to-many relationship will get. -/
def predictedAssociation (doc : Json) (registry : Registry) (rel : Json) : Option String := do
  guard (!isGeneralization rel && (text rel associationKeys).isNone &&
    isMany ((text rel fromMultiplicityKeys).getD "") && isMany ((text rel toMultiplicityKeys).getD ""))
  let nameOf (reference : Option String) : Option String := do
    classNameAt doc (← registry.index (← reference))
  let source ← nameOf (checkedEnds rel).1
  let target ← nameOf (checkedEnds rel).2
  let relId ← text rel relIdKeys
  return lower (source ++ "_" ++ target ++ "_" ++ relId)

def relationshipKeys (doc : Json) : List String :=
  (entries doc "relationships").filterMap fun r => (text r relIdKeys).map lower

def eventKeys (doc : Json) : List String :=
  (entries doc "events").filterMap fun e => (text e ["event_name"]).map lower

def references (doc : Json) : References :=
  let registry := Registry.ofDocument doc
  { classes := registry.flatten ++
      (entries doc "relationships").filterMap (predictedAssociation doc registry)
    relationships := relationshipKeys doc
    events := eventKeys doc }

end Document

end ExecutableUml
