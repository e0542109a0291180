import ExecutableUml.Validation.Fault
import ExecutableUml.Validation.References

/-! Checks of the shape of a document and of the references in it. -/

namespace ExecutableUml.Document

open Text

def finding (path : String) (fault : Fault) : List Finding := [⟨path, fault⟩]

def check (ok : Bool) (path : String) (fault : Fault) : List Finding :=
  if ok then [] else finding path fault

/-- Items with their places, each checked at `path[i]`. -/
def checkItems (path : String) (items : List Json) (f : String → Json → List Finding) :
    List Finding :=
  items.zipIdx.flatMap fun (item, i) => f (indexed path i) item

/-- Missing and null count as no list, which is allowed. -/
def isListOrAbsent (entry : Json) (key : String) : Bool :=
  match entry.get? key with
  | some value => value.isNull || value.array?.isSome
  | none => true

/-- Lists at the top have to be lists. Nothing else can be checked without them. -/
def shapeFindings (doc : Json) : List Finding :=
  if doc.isObject then
    (match classesField doc with
      | some (key, value) => check value.array?.isSome "classes" (.classesNotArray key)
      | none => []) ++
    collectionKeys.flatMap fun key => check (isListOrAbsent doc key) key (.collectionNotArray key)
  else finding "root" .rootNotObject

/-- The earliest of several entries with one key, if it is not the entry itself. -/
def earlierWith (keys : List (Option String)) (key : String) (i : Nat) : Option Nat :=
  (keys.findIdx? (· == some key)).filter (· < i)

def loweredField (keys : List String) (items : List Json) : List (Option String) :=
  items.map fun item => (text item keys).map lower

-- Classes

def duplicateFinding (doc : Json) (path : String) (i : Nat) (entry : Json) (key : String) :
    List Finding :=
  match text entry [key] with
  | none => []
  | some value =>
    match earlierWith (loweredField [key] (classes doc)) (lower value) i with
    | some earlier => finding (field path key) (.duplicateClassField key value earlier)
    | none => []

def stateShape (path : String) (state : Json) : List Finding :=
  if state.isObject then
    check (text state ["state_name"]).isSome (field path "state_name") .missingStateName
  else finding path .stateNotObject

def classFindings (doc : Json) (i : Nat) (entry : Json) : List Finding :=
  let path := indexed "classes" i
  if entry.isObject then
    check ((entry.get? "class_id").any fun v => !v.isNull) (field path "class_id") .missingClassId ++
    check (text entry ["class_name"]).isSome (field path "class_name") .missingClassName ++
    check (text entry ["KL"]).isSome (field path "KL") .missingKeyLetters ++
    ["class_id", "class_name", "KL"].flatMap (duplicateFinding doc path i entry) ++
    ["attributes", "operations", "states"].flatMap (fun key =>
      check (isListOrAbsent entry key) (field path key) (.listNotArray key)) ++
    checkItems (field path "states") (items entry "states") stateShape
  else finding path .classNotObject

def attributeFindings (registry : Registry) (path : String) (entry : Json) : List Finding :=
  if entry.isObject then
    check (text entry ["attribute_name"]).isSome (field path "attribute_name")
      .missingAttributeName ++
    (match text entry ["data_type"] with
      | some t => check (DataType.parse t).isKnown (field path "data_type") (.unknownDataType t)
      | none => []) ++
    (match text entry ["related_class_id", "related_class_name"] with
      | some r =>
        check (registry.resolves r) (field path "related_class_id") (.unknownRelatedClass r)
      | none => [])
  else finding path .attributeNotObject

-- Relationships and generalizations

/-- `R` and at least one digit, in either case. -/
def isRelationshipId (relId : String) : Bool :=
  match relId.toList with
  | c :: digits => (c == 'R' || c == 'r') && !digits.isEmpty && digits.all Char.isDigit
  | [] => false

def relIdFindings (doc : Json) (path : String) (i : Nat) (rel : Json) : List Finding :=
  match text rel relIdKeys with
  | none => finding (field path "rel_id") .missingRelId
  | some relId =>
    check (isRelationshipId relId) (field path "rel_id") (.malformedRelId relId) ++
    (match earlierWith (loweredField relIdKeys (items doc "relationships")) (lower relId) i with
      | some earlier => finding (field path "rel_id") (.duplicateRelId relId earlier)
      | none => [])

def endFindings (registry : Registry) (path : String) (side : End) (reference : Option String) :
    List Finding :=
  match reference with
  | none => finding (field path side.field) (.missingEnd side)
  | some r => check (registry.resolves r) (field path side.field) (.unknownEnd side r)

def relationshipFindings (doc : Json) (registry : Registry) (i : Nat) (rel : Json) :
    List Finding :=
  let path := indexed "relationships" i
  if rel.isObject then
    relIdFindings doc path i rel ++
    endFindings registry path .source (checkedEnds rel).1 ++
    endFindings registry path .target (checkedEnds rel).2
  else finding path .relationshipNotObject

def partyFindings (registry : Registry) (path key : String) (side : End)
    (reference : Option String) : List Finding :=
  match reference with
  | none => finding (field path key) (.missingParty side)
  | some r => check (registry.resolves r) (field path key) (.unknownParty side r)

def generalizationFindings (registry : Registry) (path : String) (entry : Json) : List Finding :=
  if entry.isObject then
    partyFindings registry path "super_class" .source (text entry superKeys) ++
    partyFindings registry path "sub_class" .target (text entry subKeys)
  else finding path .generalizationNotObject

/-- A supertype and a subtype, both known, and where they are declared. -/
structure Inheritance where
  path : String
  superIndex : Nat
  subIndex : Nat
deriving DecidableEq, Repr

def inheritance (registry : Registry) (path : String) (ends : Option String × Option String) :
    Option Inheritance := do
  return ⟨path, ← registry.index (← ends.1), ← registry.index (← ends.2)⟩

def inheritances (doc : Json) (registry : Registry) : List Inheritance :=
  (items doc "generalizations").zipIdx.filterMap (fun (entry, i) =>
    if entry.isObject then
      inheritance registry (indexed "generalizations" i) (text entry superKeys, text entry subKeys)
    else none) ++
  (items doc "relationships").zipIdx.filterMap (fun (rel, i) =>
    if rel.isObject && isGeneralization rel then
      inheritance registry (indexed "relationships" i) (generalizationEnds rel)
    else none)

/-- A class has one supertype: the one declared first. -/
def inheritanceFindings (doc : Json) (declared : List Inheritance) : List Finding :=
  declared.flatMap fun h =>
    match declared.find? fun g => g.subIndex == h.subIndex with
    | some first =>
      check (first.superIndex == h.superIndex) h.path
        (.secondSuperclass ((classNameAt doc h.subIndex).getD "")
          ((classNameAt doc first.superIndex).getD "") first.path)
    | none => []

-- Parameters

def parameterTextFindings (path params : String) : List Finding :=
  (Parameter.parseList params).flatMap fun p =>
    check p.type.isKnown path (.unknownParameterType p.type.text)

def parameterEntryFindings (path : String) (item : Json) : List Finding :=
  match item with
  | .string s => parameterTextFindings path s
  | .object _ =>
    match parameterType item with
    | some t => check (DataType.parse t).isKnown path (.unknownParameterType t)
    | none => []
  | _ => []

def signatureFindings (path : String) (signature : Option String) : List Finding :=
  match signature.bind fun s => (splitSignature s).2 with
  | some params => parameterTextFindings (field path "parameters") params
  | none => []

def callableFindings (path : String) (entry : Json) : List Finding :=
  match entry with
  | .string s => signatureFindings path (some s)
  | .object _ =>
    match (entry.get? "parameters") <|> entry.get? "params" with
    | some (.array params) =>
      checkItems (field path "parameters") params parameterEntryFindings
    | some (.string params) => parameterTextFindings (field path "parameters") params
    | _ => signatureFindings path (callableSignature entry)
  | _ => finding path .unusableCallable

-- Events and state machines

def eventFindings (doc : Json) (registry : Registry) (i : Nat) (event : Json) : List Finding :=
  let path := indexed "events" i
  if event.isObject then
    (match text event ["event_name"] with
      | none => finding (field path "event_name") .missingEventName
      | some name =>
        match earlierWith (loweredField ["event_name"] (items doc "events")) (lower name) i with
        | some earlier => finding (field path "event_name") (.duplicateEventName name earlier)
        | none => []) ++
    (match text event ["class_id"] with
      | none => finding (field path "class_id") .missingEventClass
      | some r => check (registry.resolves r) (field path "class_id") (.unknownEventClass r)) ++
    checkItems (field path "parameters") (items event "parameters") (fun p item =>
      parameterEntryFindings (field p "type") item)
  else finding path .eventNotObject

/-- One event of one row of the list of states. -/
structure StateRow where
  index : Nat
  state : String
  signature : String
  event : String
  next : String
  action : String
deriving DecidableEq, Repr

def stateRows (i : Nat) (state : Json) : List StateRow :=
  match text state ["state_name"] with
  | none => []
  | some name =>
    (stateEvents state).filterMap fun signature =>
      if (eventName signature).isEmpty then none
      else some ⟨i, name, signature, eventName signature, (text state ["next_state"]).getD name,
        actionText (state.get? "action")⟩

/-- Two rows for one state and one event have to lead to the same. -/
def conflictFindings (classIndex : Nat) (path : String) (rows : List StateRow) (row : StateRow) :
    List Finding :=
  match rows.find? fun r => r.state == row.state && lower r.event == lower row.event with
  | some first =>
    check (first.next == row.next && first.action == row.action) (field path "state_event")
      (.conflictingTransition row.state row.event classIndex first.index)
  | none => []

def stateFindings (events : List String) (classIndex : Nat) (names : List String)
    (rows : List StateRow) (i : Nat) (state : Json) : List Finding :=
  let path := indexed (field (indexed "classes" classIndex) "states") i
  match text state ["state_name"] with
  | none => []
  | some _ =>
    (match text state ["next_state"] with
      | some next => check (names.contains next) (field path "next_state") (.unknownNextState next)
      | none => []) ++
    (stateRows i state).flatMap fun row =>
      check (events.contains (lower row.event)) (field path "state_event")
        (.undeclaredStateEvent row.signature) ++
      conflictFindings classIndex path rows row

def machineFindings (events : List String) (classIndex : Nat) (entry : Json) : List Finding :=
  let states := items entry "states"
  let names := states.filterMap fun s => text s ["state_name"]
  let rows := states.zipIdx.flatMap fun (s, i) => stateRows i s
  states.zipIdx.flatMap fun (s, i) => stateFindings events classIndex names rows i s

/-- All findings on the structure, check by check. -/
def structureFindings (doc : Json) : List Finding :=
  let registry := Registry.ofDocument doc
  let numbered := (classes doc).zipIdx
  numbered.flatMap (fun (c, i) => classFindings doc i c) ++
  numbered.flatMap (fun (c, i) =>
    checkItems (field (indexed "classes" i) "attributes") (items c "attributes")
      (attributeFindings registry)) ++
  (items doc "relationships").zipIdx.flatMap (fun (r, i) => relationshipFindings doc registry i r) ++
  checkItems "generalizations" (items doc "generalizations") (generalizationFindings registry) ++
  inheritanceFindings doc (inheritances doc registry) ++
  (items doc "events").zipIdx.flatMap (fun (e, i) => eventFindings doc registry i e) ++
  numbered.flatMap (fun (c, i) => machineFindings (eventKeys doc) i c) ++
  numbered.flatMap (fun (c, i) =>
    checkItems (field (indexed "classes" i) "operations") (items c "operations")
      callableFindings) ++
  checkItems "functions" (items doc "functions") callableFindings

end ExecutableUml.Document
