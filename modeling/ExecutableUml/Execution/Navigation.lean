import ExecutableUml.Execution.Domain

/-! Following links. An instance of an association class stands between the instances it joins:
unless it is what is asked for, navigation goes on to the instances behind it. -/

namespace ExecutableUml.Execution

namespace Domain

variable {L : Language}

def isAssociation (d : Domain L) (className : String) : Bool :=
  (d.class? className).any (·.isAssociation)

/-- The class name that a reference asks for; an unknown reference is taken as a name. -/
def wantedClass (d : Domain L) (reference : String) : String :=
  match d.class? reference with
  | none => reference
  | some c => c.name

/-- Whether an identity is alive and of the wanted class, if one is wanted. -/
def isWanted (d : Domain L) (wanted : Option String) (id : InstanceId) : Bool :=
  match d.store.owner? id with
  | none => false
  | some className => wanted.all (· == className)

/-- What the partner `near` leads to: itself, or what is behind it. -/
def reached (d : Domain L) (relationship : String) (source : InstanceId) (wanted : Option String)
    (near : InstanceId) : List InstanceId :=
  match d.store.owner? near with
  | none => []
  | some className =>
    if d.isAssociation className && wanted != some className then
      (d.links.related relationship near).filter fun far => far != source && d.isWanted wanted far
    else if d.isWanted wanted near then [near]
    else []

/-- The instances across a relationship, each once, of one class if a class is named. -/
def related (d : Domain L) (relationship : String) (source : InstanceId)
    (reference : Option String) : List InstanceId :=
  distinct (· == ·)
    ((d.links.related relationship source).flatMap
      (d.reached relationship source (reference.map d.wantedClass)))

/-- One hop from every instance of a frontier. -/
def hop (d : Domain L) (frontier : List InstanceId) (step : String × Option String) :
    List InstanceId :=
  distinct (· == ·) (frontier.flatMap fun id => d.related step.1 id step.2)

/-- Follows a chain of relationships, each with a class to keep to or none. -/
def navigate (d : Domain L) (source : InstanceId) (hops : List (String × Option String)) :
    List InstanceId :=
  hops.foldl d.hop [source]

end Domain

end ExecutableUml.Execution
