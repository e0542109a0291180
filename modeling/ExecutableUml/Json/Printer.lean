import ExecutableUml.Json.Value
import ExecutableUml.Decimal.Shortest

/-! JSON text: compact, and indented by two blanks. -/

namespace ExecutableUml.Json

open Decimal

/-- The fewest digits that read back, a tie to the even digit. Positional, always with a fraction,
from `1e-5` up to but not including `1e16`; otherwise with an exponent. -/
def realText (x : Binary64) : String :=
  let s := Scientific.shortest .toEven x
  let sign := if x.negative then "-" else ""
  if s.digits = 0 then sign ++ "0.0"
  else if -5 ≤ s.magnitude ∧ s.magnitude ≤ 15 then
    sign ++ s.positional ++ (if 0 ≤ s.exponent then ".0" else "")
  else sign ++ s.exponential

def Number.text : Number → String
  | .natural n => toString n
  | .negative n => "-" ++ toString n
  | .real x => realText x

def hexPad (width n : Nat) : List Char :=
  let ds := Nat.toDigits 16 n
  List.replicate (width - ds.length) '0' ++ ds

def quoteChar (c : Char) : List Char :=
  if c = '"' then ['\\', '"']
  else if c = '\\' then ['\\', '\\']
  else if c = '\x08' then ['\\', 'b']
  else if c = '\t' then ['\\', 't']
  else if c = '\n' then ['\\', 'n']
  else if c = '\x0c' then ['\\', 'f']
  else if c = '\r' then ['\\', 'r']
  else if c.toNat < 0x20 then ['\\', 'u'] ++ hexPad 4 c.toNat
  else [c]

def quote (s : String) : String := String.ofList ('"' :: s.toList.flatMap quoteChar ++ ['"'])

mutual

def compact : Json → String
  | .null => "null"
  | .bool true => "true"
  | .bool false => "false"
  | .number n => n.text
  | .string s => quote s
  | .array items => "[" ++ compactItems items ++ "]"
  | .object fields => "\x7b" ++ compactFields fields ++ "\x7d"

def compactItems : List Json → String
  | [] => ""
  | [v] => compact v
  | v :: rest => compact v ++ "," ++ compactItems rest

def compactFields : List (String × Json) → String
  | [] => ""
  | [(k, v)] => quote k ++ ":" ++ compact v
  | (k, v) :: rest => quote k ++ ":" ++ compact v ++ "," ++ compactFields rest

end

def indentation (depth : Nat) : String := "\n" ++ String.ofList (List.replicate (2 * depth) ' ')

mutual

def prettyAt (depth : Nat) : Json → String
  | .array (v :: rest) =>
    "[" ++ prettyItems (depth + 1) (v :: rest) ++ indentation depth ++ "]"
  | .object (field :: rest) =>
    "\x7b" ++ prettyFields (depth + 1) (field :: rest) ++ indentation depth ++ "\x7d"
  | .null => "null"
  | .bool true => "true"
  | .bool false => "false"
  | .number n => n.text
  | .string s => quote s
  | .array [] => "[]"
  | .object [] => "\x7b\x7d"

def prettyItems (depth : Nat) : List Json → String
  | [] => ""
  | [v] => indentation depth ++ prettyAt depth v
  | v :: rest => indentation depth ++ prettyAt depth v ++ "," ++ prettyItems depth rest

def prettyFields (depth : Nat) : List (String × Json) → String
  | [] => ""
  | [(k, v)] => indentation depth ++ quote k ++ ": " ++ prettyAt depth v
  | (k, v) :: rest =>
    indentation depth ++ quote k ++ ": " ++ prettyAt depth v ++ "," ++ prettyFields depth rest

end

def pretty (value : Json) : String := prettyAt 0 value

end ExecutableUml.Json
