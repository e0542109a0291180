/-! Links between instances. Each relationship holds a set of unordered pairs; a pair is kept with
its smaller end first, so the two ways to name it are one link. -/

namespace ExecutableUml.Execution

abbrev InstanceId := Nat

structure Link where
  relationship : String
  low : InstanceId
  high : InstanceId
deriving DecidableEq, Repr

namespace Link

def between (relationship : String) (a b : InstanceId) : Link := ⟨relationship, min a b, max a b⟩

theorem between_comm (relationship : String) (a b : InstanceId) :
    between relationship a b = between relationship b a := by
  simp [between, Nat.min_comm, Nat.max_comm]

def touches (id : InstanceId) (l : Link) : Bool := l.low == id || l.high == id

/-- The end across from `id`, if the link is one of `id` across the relationship. -/
def partner? (relationship : String) (id : InstanceId) (l : Link) : Option InstanceId :=
  if l.relationship ≠ relationship then none
  else if l.low = id then some l.high
  else if l.high = id then some l.low
  else none

end Link

/-- Puts an identity into an increasing list that has each identity once. -/
def insertId (id : InstanceId) : List InstanceId → List InstanceId
  | [] => [id]
  | a :: as => if id < a then id :: a :: as else if id = a then a :: as else a :: insertId id as

def ascending (ids : List InstanceId) : List InstanceId := ids.foldr insertId []

/-- The links that hold, each of them once. -/
structure LinkTable where
  links : List Link := []
deriving DecidableEq, Repr

namespace LinkTable

def isRelated (t : LinkTable) (relationship : String) (a b : InstanceId) : Bool :=
  t.links.contains (.between relationship a b)

/-- The table with the pair linked, and whether it was not before. -/
def relate (t : LinkTable) (relationship : String) (a b : InstanceId) : Bool × LinkTable :=
  if t.isRelated relationship a b then (false, t)
  else (true, ⟨.between relationship a b :: t.links⟩)

/-- Links each pair and counts those that were not linked before their turn. -/
def relateAll (t : LinkTable) (relationship : String) :
    List (InstanceId × InstanceId) → Nat × LinkTable
  | [] => (0, t)
  | (a, b) :: pairs =>
    let first := t.relate relationship a b
    let rest := first.2.relateAll relationship pairs
    (first.1.toNat + rest.1, rest.2)

def unrelate (t : LinkTable) (relationship : String) (a b : InstanceId) : Bool × LinkTable :=
  (t.isRelated relationship a b, ⟨t.links.filter (· ≠ .between relationship a b)⟩)

/-- The partners of an instance in increasing order; an instance linked to itself is one. -/
def related (t : LinkTable) (relationship : String) (id : InstanceId) : List InstanceId :=
  ascending (t.links.filterMap (Link.partner? relationship id))

def count (t : LinkTable) (relationship : String) : Nat :=
  t.links.countP (·.relationship == relationship)

/-- Drops every link of an instance, across all relationships, and counts them. -/
def forget (t : LinkTable) (id : InstanceId) : Nat × LinkTable :=
  (t.links.countP (Link.touches id), ⟨t.links.filter fun l => !l.touches id⟩)

def clear (_ : LinkTable) : LinkTable := {}

end LinkTable

end ExecutableUml.Execution
