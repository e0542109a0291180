import ExecutableUml.Action.Expression
import ExecutableUml.Action.Scope
import ExecutableUml.Report.Note

/-! The code of an expression in a scope. What the scope cannot tell is noted, and the code then
reads an attribute at run time. -/

namespace ExecutableUml.Action

open Text

/-- Code with the notes made while writing it. -/
structure Rendered where
  text : String
  notes : List Note
deriving DecidableEq, Repr

/-- Receivers whose members stay as they are. -/
def plainReceivers : List String :=
  ["payload", "candidate", "ObjectStore", "RuntimeServices", "owner", "self", "kwargs", "time",
   "uuid", "datetime", "rt", "math"]

/-- Members that every generated object has, whatever the model says. -/
def isSupportMember (field : String) : Bool :=
  startsWith "get_attr".toList field.toList || startsWith "set_attr".toList field.toList ||
    startsWith ['_'] field.toList || field == "sm" || field == "dispatch_event"

/-- A call needs an operation; a read takes attributes and operations. -/
def ClassSymbols.hasMember (c : ClassSymbols) (s : Selector) : Bool :=
  if s.isCall then c.hasOperation s.field else c.hasAttribute s.field || c.hasOperation s.field

/-- The note on a member that the class of the receiver, if it is known, does not have. -/
def Scope.checkMember (scope : Scope) (receiver : String) (s : Selector) : List Note :=
  if isSupportMember s.field then []
  else match scope.classOf receiver with
    | some c => if c.hasMember s then [] else [.unknownMember c.name s.field s.isCall]
    | none => []

def dotted (receiver field : String) : String := receiver ++ "." ++ field

def attributeRead (receiver field : String) : String :=
  receiver ++ ".get_attr('" ++ field ++ "')"

def access (receiver : String) (s : Selector) : String :=
  if s.isCall then dotted receiver s.field else attributeRead receiver s.field

/-- A receiver whose members stay as they are, or a member that does whatever the receiver. -/
def isPlainAccess (head : String) (s : Selector) : Bool :=
  plainReceivers.contains head || isSupportMember s.field

/-- `head.field`, and whether what follows it stays as it is. -/
def Scope.firstAccess (scope : Scope) (head : String) (s : Selector) : Rendered × Bool :=
  if head = "rcvd_evt" then (⟨"payload.get('" ++ s.field ++ "')", []⟩, false)
  else if head = "param" then (⟨"kwargs.get('" ++ s.field ++ "')", []⟩, false)
  else if scope.isCandidate head then
    (⟨access "candidate" s, scope.checkMember head s⟩, false)
  else if head = "self" then (⟨access scope.ownerExpr s, scope.checkMember head s⟩, false)
  else if isPlainAccess head s then (⟨dotted head s.field, []⟩, true)
  else if s.isCall then (⟨dotted head s.field, []⟩, false)
  else match scope.classOf head with
    | some c =>
      if c.hasOperation s.field then (⟨dotted head s.field, []⟩, false)
      else (⟨attributeRead head s.field, scope.checkMember head s⟩, false)
    | none => (⟨attributeRead head s.field, [.unresolvedReceiver head s.field]⟩, false)

/-- A further `.field` reads an attribute of what stands before it. -/
def furtherAccess (plain : Bool) (receiver : String) (s : Selector) : String :=
  if plain || s.isCall || isSupportMember s.field then dotted receiver s.field
  else attributeRead receiver s.field

def Scope.memberAccess (scope : Scope) (head : String) (s : Selector) (further : List Selector) :
    Rendered :=
  let (first, plain) := scope.firstAccess head s
  ⟨further.foldl (furtherAccess plain) first.text, first.notes⟩

def Scope.nameText (scope : Scope) (text : String) : String :=
  let lowered := asciiLower text
  if lowered = "and" ∨ lowered = "or" ∨ lowered = "not" then lowered
  else if lowered = "true" then "True"
  else if lowered = "false" then "False"
  else if text = "self" then scope.ownerExpr
  else if text = "rcvd_evt" then "payload"
  else if text = "param" then "kwargs"
  else if scope.isCandidate text then "candidate"
  else text

def ClockReading.text : ClockReading → String
  | .timestamp => "rt.services.current_timestamp()"
  | .date => "rt.services.current_date()"

def EmptinessTest.text (operand : String) : EmptinessTest → String
  | .notEmpty => operand ++ " is not None"
  | .empty => operand ++ " is None"
  | .cardinality => "len(" ++ operand ++ " if " ++ operand ++ " else [])"

/-- The call up to its first argument. -/
def Callee.opening : Callee → String
  | .bridge entity operation => "rt.bridge('" ++ entity ++ "', '" ++ operation ++ "'"
  | .function name => "rt.call_function('" ++ name ++ "'"

def Rendered.append (a b : Rendered) : Rendered := ⟨a.text ++ b.text, a.notes ++ b.notes⟩

/-- An argument behind its comma. -/
def Rendered.argument (name : Option String) (value : Rendered) : Rendered :=
  match name with
  | some name => ⟨", " ++ name ++ "=" ++ value.text, value.notes⟩
  | none => ⟨", " ++ value.text, value.notes⟩

mutual

def Piece.render (scope : Scope) : Piece → Rendered
  | .copy token => ⟨token.text, []⟩
  | .name text => ⟨scope.nameText text, []⟩
  | .duration amount seconds => ⟨"(" ++ amount ++ " * " ++ toString seconds ++ ")", []⟩
  | .clock reading => ⟨reading.text, []⟩
  | .test kind operand =>
    let inner := renderPieces scope operand
    ⟨kind.text inner.text, inner.notes⟩
  | .call callee args =>
    let inner := renderActuals scope args
    ⟨callee.opening ++ inner.text ++ ")", inner.notes⟩
  | .member head selector further => scope.memberAccess head selector further

def renderPieces (scope : Scope) : List Piece → Rendered
  | [] => ⟨"", []⟩
  | p :: ps => (p.render scope).append (renderPieces scope ps)

def Actual.render (scope : Scope) : Actual → Rendered
  | .mk name value => (renderPieces scope value).argument name

def renderActuals (scope : Scope) : List Actual → Rendered
  | [] => ⟨"", []⟩
  | a :: as => (a.render scope).append (renderActuals scope as)

end

def Scope.expression (scope : Scope) (text : String) : Rendered :=
  renderPieces scope (parseExpression text)

/-- An expression over a scope in which nothing is known. -/
def compileExpression (text : String) : String :=
  ((Scope.ofOwner .empty none "owner").expression text).text

end ExecutableUml.Action
