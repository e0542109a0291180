import ExecutableUml.Action.Grammar
import ExecutableUml.Proofs.Action.TokenBoundary

/-! The canonical text of a statement. Names and texts go into it as they are, so it can be read
back only if every part ends where its field ends; `Statement.Printable` lists what that takes. -/

namespace ExecutableUml.Action

open Text

def IsName (x : String) : Prop := (tokens x.toList).map Token.kind = [.ident]

instance : DecidablePred IsName := fun x =>
  inferInstanceAs (Decidable ((tokens x.toList).map Token.kind = [.ident]))

inductive Bracket where
  | round
  | square
deriving DecidableEq, Repr

namespace Token

def opened (t : Token) : Option Bracket :=
  if t.isPunct "(" then some .round else if t.isPunct "[" then some .square else none

def closed (t : Token) : Option Bracket :=
  if t.isPunct ")" then some .round else if t.isPunct "]" then some .square else none

def depthAfter (t : Token) (depth : Nat) : Nat :=
  match t.opened, t.closed with
  | some _, _ => depth + 1
  | none, some _ => depth - 1
  | none, none => depth

end Token

/-- Every group is closed, by its own mark; `groups` are those open at the start, the innermost one
first. -/
def nested : List Bracket → List Token → Bool
  | groups, [] => groups.isEmpty
  | groups, t :: ts =>
    match t.opened, t.closed with
    | some b, _ => nested (b :: groups) ts
    | none, some b =>
      match groups with
      | [] => false
      | group :: groups => group == b && nested groups ts
    | none, none => nested groups ts

def hasBareComma : Nat → List Token → Bool
  | _, [] => false
  | depth, t :: ts => t.isPunct "," && depth == 0 || hasBareComma (t.depthAfter depth) ts

def looksNamed : List Token → Bool
  | name :: colon :: _ :: _ => name.isIdent && colon.isPunct ":"
  | _ => false

/-- Text of an expression that ends where its field ends. -/
structure IsText (c : String) : Prop where
  ne_empty : c ≠ ""
  trimmed : trim c.toList = c.toList
  balanced : nested [] (significant (tokens c.toList)) = true
  closed : ∀ t ∈ tokens c.toList, t.isClosed = true
  last : c.toList.getLast? ≠ some ';'

instance : DecidablePred IsText := fun c =>
  decidable_of_iff (c ≠ "" ∧ trim c.toList = c.toList ∧
      nested [] (significant (tokens c.toList)) = true ∧
      (∀ t ∈ tokens c.toList, t.isClosed = true) ∧ c.toList.getLast? ≠ some ';')
    ⟨fun ⟨h1, h2, h3, h4, h5⟩ => ⟨h1, h2, h3, h4, h5⟩,
      fun ⟨h1, h2, h3, h4, h5⟩ => ⟨h1, h2, h3, h4, h5⟩⟩

namespace Argument

def canonical : Argument → String
  | ⟨none, value⟩ => value
  | ⟨some name, value⟩ => name ++ ": " ++ value

structure Printable (a : Argument) : Prop where
  value : IsText a.value
  comma : hasBareComma 0 (significant (tokens a.value.toList)) = false
  name : ∀ x ∈ a.name, IsName x
  unnamed : a.name = none → looksNamed (significant (tokens a.value.toList)) = false

instance : DecidablePred Printable := fun a =>
  decidable_of_iff (IsText a.value ∧ hasBareComma 0 (significant (tokens a.value.toList)) = false ∧
      (∀ x ∈ a.name, IsName x) ∧
      (a.name = none → looksNamed (significant (tokens a.value.toList)) = false))
    ⟨fun ⟨h1, h2, h3, h4⟩ => ⟨h1, h2, h3, h4⟩, fun ⟨h1, h2, h3, h4⟩ => ⟨h1, h2, h3, h4⟩⟩

end Argument

namespace Hop

def canonical (h : Hop) : String := "->" ++ h.className ++ "[" ++ h.relId ++ "]"

def Printable (h : Hop) : Prop := IsName h.className ∧ IsName h.relId

end Hop

def Cardinality.word : Cardinality → String
  | .any => "any"
  | .one => "one"
  | .many => "many"

def phrase (names : List String) : String := joinWith " " names

def groupText (inside : String) : String := "(" ++ inside ++ ")"

def argumentsText (args : List Argument) : String :=
  groupText (joinWith ", " (args.map Argument.canonical))

def hopsText : List Hop → String
  | [] => ""
  | h :: hops => h.canonical ++ hopsText hops

def whereText : Option String → String
  | none => ""
  | some c => " where " ++ groupText c

def linkWords : Option String → List String
  | none => []
  | some link => ["using", link]

def eventText (keyLetters : Option String) (label : String) (args : List Argument) : String :=
  match keyLetters with
  | none => label ++ argumentsText args
  | some kl => kl ++ ":" ++ label ++ argumentsText args

namespace AssignTarget

def canonical : AssignTarget → String
  | .variable name => name
  | .attribute object name => object ++ "." ++ name

def Printable : AssignTarget → Prop
  | .variable name => IsName name
  | .attribute object name => IsName object ∧ IsName name

end AssignTarget

/-- Words that announce a form of their own at the start of a line. -/
def leadingWords : List String :=
  ["if", "elif", "while", "else", "end", "for", "break", "continue", "return", "select", "create",
   "delete", "relate", "unrelate", "send", "generate", "assign"]

namespace Statement

def canonical : Statement → String
  | .comment text => "// " ++ text
  | .ifBegin c => phrase ["if"] ++ " " ++ groupText c
  | .elseIf c => phrase ["elif"] ++ " " ++ groupText c
  | .elseBegin => "else"
  | .ifEnd => "end if"
  | .forEach var collection => phrase ["for", "each", var, "in"] ++ " " ++ collection
  | .forEnd => "end for"
  | .whileBegin c => phrase ["while"] ++ " " ++ groupText c
  | .whileEnd => "end while"
  | .breakLoop => "break"
  | .continueLoop => "continue"
  | .returnValue none => "return"
  | .returnValue (some value) => phrase ["return"] ++ " " ++ value
  | .selectInstances card var classRef c =>
    phrase ["select", card.word, var, "from", "instances", "of", classRef] ++ whereText c
  | .selectRelated card var source hops c =>
    phrase ["select", card.word, var, "related", "by", source] ++ hopsText hops ++ whereText c
  | .createObject var classRef => phrase ["create", "object", "instance", var, "of", classRef]
  | .deleteObject var => phrase ["delete", "object", "instance", var]
  | .relate source target relId link =>
    phrase (["relate", source, "to", target, "across", relId] ++ linkWords link)
  | .unrelate source target relId link =>
    phrase (["unrelate", source, "from", target, "across", relId] ++ linkWords link)
  | .unrelateNavigated source start hop relId =>
    phrase ["unrelate", source, "from", start] ++ hop.canonical ++ " " ++ phrase ["across", relId]
  | .send message args target =>
    phrase ["send", message] ++ argumentsText args ++ " to " ++ target
  | .createEvent var keyLetters label args target =>
    phrase ["create", "event", "instance", var, "of"] ++ " " ++ eventText keyLetters label args ++
      " to " ++ target
  | .generate keyLetters event args target =>
    phrase ["generate"] ++ " " ++ eventText keyLetters event args ++ " to " ++ target
  | .generateInstance var => phrase ["generate", var]
  | .bridgeCall entity operation args => entity ++ "::" ++ operation ++ argumentsText args
  | .functionCall name args => "::" ++ name ++ argumentsText args
  | .methodCall object method args => object ++ "." ++ method ++ argumentsText args
  | .assign target value => phrase ["assign"] ++ " " ++ target.canonical ++ " = " ++ value
  | .unrecognized line => line

/-- Comments and lines that are no statement have no canonical text to read back. -/
def Printable : Statement → Prop
  | .comment _ | .unrecognized _ => False
  | .elseBegin | .ifEnd | .forEnd | .whileEnd | .breakLoop | .continueLoop => True
  | .ifBegin c | .elseIf c | .whileBegin c => IsText c
  | .forEach var collection => IsName var ∧ IsText collection
  | .returnValue value => ∀ v ∈ value, IsText v
  | .selectInstances _ var classRef c => IsName var ∧ IsName classRef ∧ ∀ t ∈ c, IsText t
  | .selectRelated _ var source hops c =>
    IsName var ∧ IsName source ∧ (∀ h ∈ hops, h.Printable) ∧ ∀ t ∈ c, IsText t
  | .createObject var classRef => IsName var ∧ IsName classRef
  | .deleteObject var | .generateInstance var => IsName var
  | .relate source target relId link | .unrelate source target relId link =>
    IsName source ∧ IsName target ∧ IsName relId ∧ ∀ x ∈ link, IsName x
  | .unrelateNavigated source start hop relId =>
    IsName source ∧ IsName start ∧ hop.Printable ∧ IsName relId
  | .send message args target => IsName message ∧ (∀ a ∈ args, a.Printable) ∧ IsText target
  | .createEvent var keyLetters label args target =>
    IsName var ∧ (∀ x ∈ keyLetters, IsName x) ∧ IsName label ∧ (∀ a ∈ args, a.Printable) ∧
      IsText target
  | .generate keyLetters event args target =>
    (∀ x ∈ keyLetters, IsName x) ∧ IsName event ∧ (∀ a ∈ args, a.Printable) ∧ IsText target
  | .functionCall name args => IsName name ∧ ∀ a ∈ args, a.Printable
  | .bridgeCall first second args | .methodCall first second args =>
    IsName first ∧ asciiLower first ∉ leadingWords ∧ IsName second ∧ ∀ a ∈ args, a.Printable
  | .assign target value => target.Printable ∧ IsText value

def isStepless : Statement → Bool
  | .selectRelated _ _ _ [] _ => true
  | _ => false

end Statement

end ExecutableUml.Action
