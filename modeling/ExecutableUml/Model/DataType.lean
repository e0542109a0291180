import ExecutableUml.Text.Case
import ExecutableUml.Text.Trim

/-! The data types of attributes and parameters, their text, and parameter lists. -/

namespace ExecutableUml

open Text

inductive DataType where
  | boolean
  | integer
  | real
  | string
  | uniqueId
  | date
  | timestamp
  | datetime
  | void
  | any
  | set
  | bag
  | sequence
  | instRef (className : String)
  | instRefSet (className : Option String)
  | unknown (text : String)
deriving DecidableEq, Repr

namespace DataType

/-- What follows `head` in the text, the ASCII case of the head aside. -/
def afterHead : List Char → List Char → Option (List Char)
  | [], s => some s
  | _ :: _, [] => none
  | h :: hs, c :: cs => if h.toLower = c.toLower then afterHead hs cs else none

/-- The class in `head<class>`; blanks may stand before the bracket and around the class. -/
def reference (head : String) (s : List Char) : Option String := do
  let rest ← afterHead head.toList s
  let rest ← stripStart ['<'] (trimStart rest)
  let inner ← stripEnd ['>'] rest
  return String.ofList (trim inner)

def named (word : String) : Option DataType :=
  match word with
  | "boolean" => some .boolean
  | "integer" => some .integer
  | "real" => some .real
  | "string" => some .string
  | "unique_id" => some .uniqueId
  | "date" => some .date
  | "timestamp" => some .timestamp
  | "datetime" => some .datetime
  | "void" => some .void
  | "any" => some .any
  | "set" => some .set
  | "bag" => some .bag
  | "sequence" => some .sequence
  | "inst_ref_set" => some (.instRefSet none)
  | _ => none

/-- Type names ignore ASCII case; the class of a reference keeps its spelling. -/
def parse (text : String) : DataType :=
  let s := trim text.toList
  match reference "inst_ref_set" s, reference "inst_ref" s with
  | some c, _ => .instRefSet (some c)
  | none, some c => .instRef c
  | none, none =>
    (named (asciiLower (String.ofList s))).getD (.unknown (String.ofList s))

def text : DataType → String
  | .boolean => "boolean"
  | .integer => "integer"
  | .real => "real"
  | .string => "string"
  | .uniqueId => "unique_id"
  | .date => "date"
  | .timestamp => "timestamp"
  | .datetime => "datetime"
  | .void => "void"
  | .any => "any"
  | .set => "set"
  | .bag => "bag"
  | .sequence => "sequence"
  | .instRef c => "inst_ref<" ++ c ++ ">"
  | .instRefSet (some c) => "inst_ref_set<" ++ c ++ ">"
  | .instRefSet none => "inst_ref_set"
  | .unknown s => s

def isKnown : DataType → Bool
  | .unknown _ => false
  | _ => true

def referencedClass : DataType → Option String
  | .instRef c => some c
  | .instRefSet c => c
  | _ => none

end DataType

structure Parameter where
  name : String
  type : DataType
deriving DecidableEq, Repr

namespace Parameter

/-- One part of a list: `name: type`, or a name whose type is `any`. Blank parts are dropped. -/
def ofPart (part : List Char) : Option Parameter :=
  let part := trim part
  if part.isEmpty then none
  else match cutAtChar ':' part with
    | some (name, type) =>
      some ⟨String.ofList (trim name), DataType.parse (String.ofList type)⟩
    | none => some ⟨String.ofList part, .any⟩

/-- A comma separated list. -/
def parseList (text : String) : List Parameter :=
  (splitAtChar ',' text.toList).filterMap ofPart

end Parameter

end ExecutableUml
