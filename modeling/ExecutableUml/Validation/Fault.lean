import ExecutableUml.Report.Issue

/-! Everything that can be wrong with a document, with the wording of each fault. -/

namespace ExecutableUml

/-- The three kinds of blocks in action text. -/
inductive Block where
  | branch
  | forEach
  | loop
deriving DecidableEq, Repr

namespace Block

def keyword : Block → String
  | .branch => "if"
  | .forEach => "for each"
  | .loop => "while"

def closer : Block → String
  | .branch => "end if"
  | .forEach => "end for"
  | .loop => "end while"

end Block

/-- The two ends of a relationship. -/
inductive End where
  | source
  | target
deriving DecidableEq, Repr

namespace End

/-- Name of the field of a relationship. -/
def field : End → String
  | .source => "from_class"
  | .target => "to_class"

/-- Word for the end of a generalization. -/
def role : End → String
  | .source => "super"
  | .target => "sub"

end End

inductive Fault where
  | rootNotObject
  | classesNotArray (key : String)
  | collectionNotArray (key : String)
  | classNotObject
  | missingClassId
  | missingClassName
  | missingKeyLetters
  | duplicateClassField (field value : String) (earlier : Nat)
  | listNotArray (key : String)
  | stateNotObject
  | missingStateName
  | attributeNotObject
  | missingAttributeName
  | unknownDataType (text : String)
  | unknownRelatedClass (reference : String)
  | relationshipNotObject
  | missingRelId
  | malformedRelId (relId : String)
  | duplicateRelId (relId : String) (earlier : Nat)
  | missingEnd (side : End)
  | unknownEnd (side : End) (reference : String)
  | generalizationNotObject
  | missingParty (side : End)
  | unknownParty (side : End) (reference : String)
  | secondSuperclass (subName superName earlier : String)
  | eventNotObject
  | missingEventName
  | duplicateEventName (name : String) (earlier : Nat)
  | missingEventClass
  | unknownEventClass (reference : String)
  | unknownParameterType (text : String)
  | unknownNextState (name : String)
  | undeclaredStateEvent (signature : String)
  | conflictingTransition (state event : String) (classIndex earlier : Nat)
  | unusableCallable
  | unrecognizedStatement (line : String)
  | unknownSelectedClass (reference : String)
  | unknownCreatedClass (reference : String)
  | undeclaredEvent (name : String)
  | unknownRelationship (relId : String)
  | branchOutsideIf (label : String)
  | mismatchedEnd (closing innermost : Block) (openedOn : Nat)
  | unmatchedEnd (closing : Block)
  | neverClosed (block : Block)
deriving DecidableEq, Repr

namespace Fault

def message : Fault → String
  | .rootNotObject => "Input must be a JSON object"
  | .classesNotArray key => "`" ++ key ++ "` must be an array of classes"
  | .collectionNotArray key => "`" ++ key ++ "` must be an array if provided"
  | .classNotObject => "Class entry must be an object"
  | .missingClassId => "Missing required field `class_id`"
  | .missingClassName => "Missing required field `class_name`"
  | .missingKeyLetters => "Missing required field `KL` (key letters)"
  | .duplicateClassField field value earlier =>
    "Duplicate " ++ field ++ " '" ++ value ++ "' (also used by classes[" ++ toString earlier ++ "])"
  | .listNotArray key => "`" ++ key ++ "` must be an array"
  | .stateNotObject => "State must be an object"
  | .missingStateName => "State missing `state_name`"
  | .attributeNotObject => "Attribute must be an object"
  | .missingAttributeName => "Attribute missing `attribute_name`"
  | .unknownDataType text => "Unknown data_type '" ++ text ++ "'"
  | .unknownRelatedClass reference => "Unknown related class '" ++ reference ++ "'"
  | .relationshipNotObject => "Relationship must be an object"
  | .missingRelId => "Missing `rel_id`"
  | .malformedRelId relId => "Relationship id '" ++ relId ++ "' is not of the form R<number>"
  | .duplicateRelId relId earlier =>
    "Duplicate rel_id '" ++ relId ++ "' (also used by relationships[" ++ toString earlier ++ "])"
  | .missingEnd side => "Missing `" ++ side.field ++ "`"
  | .unknownEnd _ reference => "Unknown class reference '" ++ reference ++ "'"
  | .generalizationNotObject => "Generalization must be an object"
  | .missingParty side => "Missing " ++ side.role ++ " class reference"
  | .unknownParty side reference =>
    "Unknown " ++ side.role ++ " class reference '" ++ reference ++ "'"
  | .secondSuperclass subName superName _ =>
    "Class '" ++ subName ++ "' already has superclass '" ++ superName ++
      "'; multiple inheritance is not supported"
  | .eventNotObject => "Event must be an object"
  | .missingEventName => "Missing `event_name`"
  | .duplicateEventName name earlier =>
    "Duplicate event_name '" ++ name ++ "' (also used by events[" ++ toString earlier ++ "])"
  | .missingEventClass => "Missing `class_id`"
  | .unknownEventClass reference => "Unknown class '" ++ reference ++ "' for event"
  | .unknownParameterType text => "Unknown parameter type '" ++ text ++ "'"
  | .unknownNextState name => "Unknown next_state '" ++ name ++ "'"
  | .undeclaredStateEvent signature => "Unknown event '" ++ signature ++ "'"
  | .conflictingTransition state event _ _ =>
    "Conflicting transition for (" ++ state ++ ", " ++ event ++
      "): another row already handles it differently"
  | .unusableCallable => "Operation must be a signature string or an object"
  | .unrecognizedStatement line => "Unrecognized OAL statement: '" ++ line ++ "'"
  | .unknownSelectedClass reference => "Unknown class reference '" ++ reference ++ "' in selection"
  | .unknownCreatedClass reference => "Unknown class '" ++ reference ++ "' in create instance"
  | .undeclaredEvent name => "Event '" ++ name ++ "' is not defined in events"
  | .unknownRelationship relId => "Unknown relationship '" ++ relId ++ "'"
  | .branchOutsideIf label => "'" ++ label ++ "' outside an if block"
  | .mismatchedEnd closing innermost openedOn =>
    "'" ++ closing.closer ++ "' does not match the '" ++ innermost.keyword ++ "' opened on line " ++
      toString openedOn
  | .unmatchedEnd closing =>
    "'" ++ closing.closer ++ "' without a matching '" ++ closing.keyword ++ "'"
  | .neverClosed block => "'" ++ block.keyword ++ "' block is never closed"

def hint : Fault → Option String
  | .missingKeyLetters => some "Provide a short unique code, e.g. VM"
  | .duplicateClassField _ _ earlier =>
    some ("Conflicts with classes[" ++ toString earlier ++ "]")
  | .unknownDataType _ => some ("Use boolean, integer, real, string, unique_id, date, timestamp, " ++
      "inst_ref<Class> or inst_ref_set<Class>")
  | .unknownRelatedClass _ => some "Use a valid class_id, class_name or KL"
  | .malformedRelId _ => some "Use ids like R1, R2, R12"
  | .duplicateRelId _ earlier => some ("Conflicts with relationships[" ++ toString earlier ++ "]")
  | .unknownEnd side _ =>
    some ("Ensure `" ++ side.field ++ "` matches an existing class_id, class_name or KL")
  | .secondSuperclass _ _ earlier => some ("Conflicts with " ++ earlier)
  | .duplicateEventName _ earlier => some ("Conflicts with events[" ++ toString earlier ++ "]")
  | .unknownNextState _ => some "Use a state_name defined in this class"
  | .undeclaredStateEvent _ => some "Declare the event in the events block"
  | .conflictingTransition _ _ classIndex earlier =>
    some ("Conflicts with classes[" ++ toString classIndex ++ "].states[" ++ toString earlier ++ "]")
  | .unrecognizedStatement _ => some "Check the line for typos or an unsupported statement form"
  | .unknownSelectedClass _ => some "Check the spelling of the class name or key letters"
  | .unknownCreatedClass _ => some "Use the key letters or name of a declared class"
  | .undeclaredEvent _ => some "Add it to the events block or fix the spelling"
  | .unknownRelationship _ => some "The rel_id must be declared in relationships"
  | .branchOutsideIf _ => some "Open the branch with 'if (condition)' first"
  | .mismatchedEnd _ innermost _ =>
    some ("Close the inner block with '" ++ innermost.closer ++ "' first")
  | .unmatchedEnd _ => some "Remove the line or open the block it closes"
  | .neverClosed block => some ("Add '" ++ block.closer ++ "'")
  | _ => none

end Fault

/-- A fault at a place of the document. -/
structure Finding where
  path : String
  fault : Fault
deriving DecidableEq, Repr

def Finding.issue (f : Finding) : Issue := ⟨f.path, f.fault.message, f.fault.hint⟩

/-- Paths into the document. -/
def indexed (path : String) (i : Nat) : String := path ++ "[" ++ toString i ++ "]"

def field (path key : String) : String := path ++ "." ++ key

end ExecutableUml
