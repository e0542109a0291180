import ExecutableUml.Json.Printer
import ExecutableUml.Model.Basic

/-! Reading a model document. Editors spell the same field in different ways; every reading of a
field goes through the lists of spellings here. -/

namespace ExecutableUml.Document

open Text

def relIdKeys : List String := ["rel_id", "relId"]

def fromKeys : List String := ["from_class", "fromClass", "from", "super", "source_class"]

def toKeys : List String := ["to_class", "toClass", "to", "sub", "target_class"]

def fromMultiplicityKeys : List String := ["from_class_multiplicity", "fromMultiplicity"]

def toMultiplicityKeys : List String := ["to_class_multiplicity", "toMultiplicity"]

/-- Spellings that only a supertype has; `super` is also one end of a plain relationship. -/
def ownSuperKeys : List String :=
  ["super_class", "superClass", "superclass", "parent_class", "parent", "base", "super_type"]

def superKeys : List String := "super" :: ownSuperKeys

def ownSubKeys : List String :=
  ["sub_class", "subClass", "subclass", "child_class", "child", "specific", "sub_type"]

def subKeys : List String := "sub" :: ownSubKeys

def associationKeys : List String :=
  ["association_class", "association_class_id", "assoc_class", "assoc_class_id"]

/-- Lists at the top of a document besides the classes. -/
def collectionKeys : List String := ["relationships", "events", "functions", "generalizations"]

/-- Text of a scalar, trimmed. A blank text and everything that is not a scalar count as absent. -/
def scalarText : Json → Option String
  | .string s => if (trimmed s).isEmpty then none else some (trimmed s)
  | .number n => some n.text
  | .bool b => some (if b then "true" else "false")
  | _ => none

/-- The first spelling of a field that has a text. -/
def text (entry : Json) (keys : List String) : Option String :=
  (keys.filterMap entry.get?).findSome? scalarText

/-- Items of a list field; none if it is missing or no list. -/
def items (entry : Json) (key : String) : List Json :=
  ((entry.get? key).bind Json.array?).getD []

/-- The field that holds the classes. -/
def classesField (doc : Json) : Option (String × Json) :=
  ["model", "classes"].findSome? fun key =>
    match doc.get? key with
    | some value => if value.isNull then none else some (key, value)
    | none => none

def classes (doc : Json) : List Json :=
  ((classesField doc).bind fun field => field.2.array?).getD []

def flag (entry : Json) (key : String) : Bool :=
  match entry.get? key with
  | some (.bool b) => b
  | some (.string s) => sameUpToAsciiCase s "true"
  | _ => false

def modelName (doc : Json) : String :=
  (text doc ["sub_name", "name", "model_name"]).getD "xtuml_model"

/-- Whether the text of one of the spellings is a word, up to ASCII case. -/
def isWord (entry : Json) (keys : List String) (word : String) : Bool :=
  (text entry keys).any fun t => sameUpToAsciiCase t word

/-- Whether a relationship stands for a supertype and a subtype. -/
def isGeneralization (rel : Json) : Bool :=
  isWord rel ["type", "rel_type"] "generalization" || isWord rel ["type", "rel_type"] "inheritance" ||
    (["kind", "category", "relationship_type"].any fun key => isWord rel [key] "generalization") ||
    flag rel "is_generalization" ||
    (rel.get? "generalization").any (fun v => v.bool? == some true) ||
    ((text rel ownSuperKeys).isSome && (text rel ownSubKeys).isSome)

/-- The supertype and the subtype of such a relationship; their own fields go before its ends. -/
def generalizationEnds (rel : Json) : Option String × Option String :=
  ((text rel ownSuperKeys) <|> text rel ["from_class"],
   (text rel ownSubKeys) <|> text rel ["to_class"])

/-- The event signatures of a state: one, or a list. -/
def stateEvents (state : Json) : List String :=
  match state.get? "state_event" with
  | some (.array values) => values.filterMap scalarText
  | some value => (scalarText value).toList
  | none => []

/-- The name of an event: its signature without the part in square brackets. -/
def eventName (signature : String) : String :=
  let s := signature.toList
  match cutAtChar '[' s with
  | some (before, rest) =>
    match cutAtLastChar ']' rest with
    | some (_, after) => String.ofList (trim (before ++ after))
    | none => trimmed signature
  | none => trimmed signature

/-- Action text: a string, or a list of lines. -/
def actionText : Option Json → String
  | some (.string s) => s
  | some (.array lines) => joinWith "\n" (lines.map fun line =>
      match line with
      | .string s => s
      | value => value.compact)
  | _ => ""

/-- `name(parameters)`: the last word before the parenthesis, and the text inside. -/
def splitSignature (signature : String) : String × Option String :=
  let s := trim signature.toList
  match cutAtChar '(' s with
  | some (head, rest) =>
    match cutAtLastChar ')' rest with
    | some (inside, _) =>
      (String.ofList ((trim head).reverse.takeWhile isWordChar).reverse, some (String.ofList inside))
    | none => (String.ofList s, none)
  | none => (String.ofList s, none)

def parameterType (item : Json) : Option String := text item ["data_type", "type", "oalType"]

def parameterEntry (item : Json) : List Parameter :=
  match item with
  | .string s => Parameter.parseList s
  | .object _ =>
    match text item ["name", "parameter_name", "param_name"] with
    | some name => [⟨name, ((parameterType item).map DataType.parse).getD .any⟩]
    | none => []
  | _ => []

/-- Parameters as one text, or as a list of texts and of objects. -/
def parameters : Json → List Parameter
  | .string s => Parameter.parseList s
  | .array values => values.flatMap parameterEntry
  | _ => []

/-- The signature of an operation or a function. -/
def callableSignature (entry : Json) : Option String :=
  match entry with
  | .string _ => scalarText entry
  | _ => text entry ["signature", "name"]

def signatureParameters (signature : String) : List Parameter :=
  ((splitSignature signature).2.map Parameter.parseList).getD []

/-- Parameters that are listed go before those in the signature. -/
def callableParameters (entry : Json) : List Parameter :=
  match entry with
  | .string signature => signatureParameters signature
  | .object _ =>
    let fromSignature := ((callableSignature entry).map signatureParameters).getD []
    match (entry.get? "parameters") <|> entry.get? "params" with
    | some listed => if listed.isNull then fromSignature else parameters listed
    | none => fromSignature
  | _ => []

end ExecutableUml.Document
