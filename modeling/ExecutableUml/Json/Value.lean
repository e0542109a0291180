import ExecutableUml.Decimal.Binary64

/-! JSON values. The fields of an object are sorted by key and each key occurs once. -/

namespace ExecutableUml

open Decimal

/-- A natural below `2 ^ 64`, the negation of a positive number up to `2 ^ 63`, or a binary64. -/
inductive Json.Number where
  | natural (n : Nat)
  | negative (n : Nat)
  | real (x : Binary64)
deriving DecidableEq, Repr

inductive Json where
  | null
  | bool (b : Bool)
  | number (n : Json.Number)
  | string (s : String)
  | array (items : List Json)
  | object (fields : List (String × Json))
deriving Repr, Inhabited

namespace Json

namespace Number

def ofInt (i : Int) : Number := if 0 ≤ i then .natural i.toNat else .negative i.natAbs

/-- The value, when it is an integer in the signed 64-bit range. -/
def int64? : Number → Option Int
  | .natural n => if n < Nat.pow 2 63 then some n else none
  | .negative n => some (-n)
  | .real _ => none

/-- The nearest binary64. -/
def toBinary64 : Number → Binary64
  | .natural n => (Binary64.ofRatio false n 1).getD (Binary64.largest false)
  | .negative n => (Binary64.ofRatio true n 1).getD (Binary64.largest true)
  | .real x => x

/-- Equal as values of the same kind: an integer never equals a binary64. -/
def same : Number → Number → Bool
  | .real x, .real y => x.sameValue y
  | a, b => a == b

end Number

def nat (n : Nat) : Json := .number (.natural n)

def int (i : Int) : Json := .number (.ofInt i)

def optional {α : Type} (f : α → Json) : Option α → Json
  | none => .null
  | some a => f a

def list {α : Type} (f : α → Json) (l : List α) : Json := .array (l.map f)

def strings (l : List String) : Json := list .string l

/-- Puts a field into a sorted list of fields; a later value for the same key wins. -/
def insertField {α : Type} (key : String) (value : α) : List (String × α) → List (String × α)
  | [] => [(key, value)]
  | field :: rest =>
    if key = field.1 then (key, value) :: rest
    else if key < field.1 then (key, value) :: field :: rest
    else field :: insertField key value rest

def sortFields {α : Type} (fields : List (String × α)) : List (String × α) :=
  fields.foldl (fun sorted field => insertField field.1 field.2 sorted) []

def ofFields (fields : List (String × Json)) : Json := .object (sortFields fields)

def isNull : Json → Bool
  | .null => true
  | _ => false

def get? (value : Json) (key : String) : Option Json :=
  match value with
  | .object fields => fields.lookup key
  | _ => none

def str? : Json → Option String
  | .string s => some s
  | _ => none

def nat? : Json → Option Nat
  | .number (.natural n) => some n
  | _ => none

def bool? : Json → Option Bool
  | .bool b => some b
  | _ => none

def array? : Json → Option (List Json)
  | .array items => some items
  | _ => none

def fields? : Json → Option (List (String × Json))
  | .object fields => some fields
  | _ => none

def int64? : Json → Option Int
  | .number n => n.int64?
  | _ => none

mutual

/-- Equality of values; numbers are compared by `Number.same`. -/
def same : Json → Json → Bool
  | .null, .null => true
  | .bool a, .bool b => a == b
  | .number a, .number b => a.same b
  | .string a, .string b => a == b
  | .array a, .array b => sameItems a b
  | .object a, .object b => sameFields a b
  | _, _ => false

def sameItems : List Json → List Json → Bool
  | [], [] => true
  | a :: as, b :: bs => same a b && sameItems as bs
  | _, _ => false

def sameFields : List (String × Json) → List (String × Json) → Bool
  | [], [] => true
  | (k, a) :: as, (l, b) :: bs => k == l && same a b && sameFields as bs
  | _, _ => false

end

end Json

end ExecutableUml
