import ExecutableUml.Model.Basic
import ExecutableUml.Text.Sorted

/-! What names mean in an action: the members of each class, and the class of each variable. -/

namespace ExecutableUml.Action

open Text

structure ClassSymbols where
  name : String
  pyName : String
  keyLetters : String
  attributes : List String
  operations : List String
  hasStateMachine : Bool
deriving DecidableEq, Repr

namespace ClassSymbols

def hasAttribute (c : ClassSymbols) (name : String) : Bool := c.attributes.contains name

def hasOperation (c : ClassSymbols) (name : String) : Bool := c.operations.contains name

def ofClass (c : Class) : ClassSymbols :=
  ⟨c.name, c.pyName, c.keyLetters, sortedSet (c.attributes.map Attribute.name),
    sortedSet (c.operations.map Operation.name), c.stateMachine.isSome⟩

/-- An association class also has a reference to each of its ends. -/
def ofAssociation (m : Model) (a : AssociationClass) : ClassSymbols :=
  ⟨a.name, a.pyName, a.keyLetters,
    sortedSet (a.attributes.map Attribute.name ++
      [m.keyLettersOf a.source ++ "_ref", m.keyLettersOf a.target ++ "_ref"]),
    [], false⟩

end ClassSymbols

/-- A class with the texts that refer to it. -/
structure SymbolEntry where
  keys : List String
  symbols : ClassSymbols
deriving DecidableEq, Repr

structure SymbolTable where
  entries : List SymbolEntry
  events : List String
deriving DecidableEq, Repr

namespace SymbolTable

def empty : SymbolTable := ⟨[], []⟩

def ofModel (m : Model) : SymbolTable :=
  ⟨m.classes.map (fun c => ⟨[c.name, c.keyLetters, c.pyName, c.id], .ofClass c⟩) ++
     m.associations.map (fun a => ⟨[a.name, a.keyLetters, a.pyName], .ofAssociation m a⟩),
   m.events.map Event.name⟩

/-- The first class one of whose texts equals the reference in any case. -/
def resolve (t : SymbolTable) (reference : String) : Option ClassSymbols :=
  let wanted := lower (trimmed reference)
  (t.entries.find? fun e => e.keys.any fun k => !k.isEmpty && lower k == wanted).map
    SymbolEntry.symbols

/-- The spelling in which an event was first declared. -/
def eventName (t : SymbolTable) (name : String) : Option String :=
  let wanted := lower (trimmed name)
  t.events.find? fun e => lower e == wanted

def isEmpty (t : SymbolTable) : Bool := t.entries.isEmpty

end SymbolTable

/-- The names visible in an action. Inside a condition on candidates, `candidate` has the variable
that stands for one and its class. -/
structure Scope where
  symbols : SymbolTable
  owner : Option ClassSymbols
  ownerExpr : String
  locals : List (String × ClassSymbols)
  candidate : Option (String × Option ClassSymbols)
deriving DecidableEq, Repr

namespace Scope

def ofOwner (symbols : SymbolTable) (owner : Option String) (ownerExpr : String) : Scope :=
  ⟨symbols, owner.bind symbols.resolve, ownerExpr, [], none⟩

def assign (s : Scope) (var : String) (c : Option ClassSymbols) : Scope :=
  let others := s.locals.filter fun v => v.1 != var
  { s with locals := match c with
      | some c => (var, c) :: others
      | none => others }

/-- The variable holds instances of a class; a class that is not known makes it unknown. -/
def bind (s : Scope) (var reference : String) : Scope := s.assign var (s.symbols.resolve reference)

def unbind (s : Scope) (var : String) : Scope := s.assign var none

def classOf (s : Scope) (var : String) : Option ClassSymbols :=
  if var == "self" then s.owner
  else match s.candidate with
    | some (alias_, c) =>
      if var == alias_ || var == "selected" || var == "candidate" then c else s.locals.lookup var
    | none => s.locals.lookup var

/-- The variable holds whatever another one does. -/
def bindLike (s : Scope) (var source : String) : Scope := s.assign var (s.classOf source)

def withCandidate (s : Scope) (var : String) (reference : Option String) : Scope :=
  { s with candidate := some (var, reference.bind s.symbols.resolve) }

def isCandidate (s : Scope) (var : String) : Bool :=
  var == "selected" || s.candidate.any fun c => c.1 == var

end Scope

end ExecutableUml.Action
