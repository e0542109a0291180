import ExecutableUml.Execution.Link

/-! Which instances are alive. The store knows the class of every live identity, and the extent of
every class: its live identities in order of creation. Identities are never used again; that is so
for fewer than 2 ^ 64 creations, which is as far as identities are counted. -/

namespace ExecutableUml.Execution

structure Store where
  nextId : InstanceId := 1
  owners : List (InstanceId × String) := []
  extents : List (String × List InstanceId) := []
deriving DecidableEq, Repr

namespace Store

/-- The extents with one of them changed; a class without an extent gets one. -/
def changeExtent (change : List InstanceId → List InstanceId) (className : String) :
    List (String × List InstanceId) → List (String × List InstanceId)
  | [] => [(className, change [])]
  | (name, ids) :: rest =>
    if name = className then (name, change ids) :: rest
    else (name, ids) :: changeExtent change className rest

/-- Gives the class an extent, if it has none. -/
def register (s : Store) (className : String) : Store :=
  { s with extents := changeExtent id className s.extents }

/-- A new instance of a class. -/
def add (s : Store) (className : String) : InstanceId × Store :=
  (s.nextId,
    { nextId := s.nextId + 1
      owners := s.owners ++ [(s.nextId, className)]
      extents := changeExtent (· ++ [s.nextId]) className s.extents })

def owner? (s : Store) (id : InstanceId) : Option String := s.owners.lookup id

def contains (s : Store) (id : InstanceId) : Bool := (s.owner? id).isSome

def extent (s : Store) (className : String) : List InstanceId :=
  (s.extents.lookup className).getD []

def count (s : Store) (className : String) : Nat := (s.extent className).length

def size (s : Store) : Nat := s.owners.length

/-- Takes an instance out of its class. -/
def remove (s : Store) (id : InstanceId) : Store :=
  match s.owner? id with
  | none => s
  | some className =>
    { s with
      owners := s.owners.filter (·.1 ≠ id)
      extents := changeExtent (·.filter (· ≠ id)) className s.extents }

/-- Drops every instance and keeps the extents, now empty. -/
def clear (s : Store) : Store :=
  { s with owners := [], extents := s.extents.map fun extent => (extent.1, []) }

end Store

end ExecutableUml.Execution
