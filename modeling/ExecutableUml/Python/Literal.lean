import ExecutableUml.Decimal.Shortest
import ExecutableUml.Json.Printer
import ExecutableUml.Model.Basic
import ExecutableUml.Python.Name

/-! Types and literals of the generated code. -/

namespace ExecutableUml

open Text Decimal

namespace Python

def escapeChar (c : Char) : List Char :=
  if c = '"' then ['\\', '"']
  else if c = '\\' then ['\\', '\\']
  else if c = '\n' then ['\\', 'n']
  else if c = '\r' then ['\\', 'r']
  else if c = '\t' then ['\\', 't']
  else if c.toNat < 0x20 then '\\' :: 'x' :: Json.hexPad 2 c.toNat
  else [c]

def stringLiteral (s : String) : String :=
  String.ofList ('"' :: s.toList.flatMap escapeChar ++ ['"'])

def boolLiteral (b : Bool) : String := if b then "True" else "False"

/-- Always with a decimal point; what is not finite is written as zero. -/
def floatLiteral : Option Binary64 → String
  | some x => if x.isInteger then x.integral else x.plain
  | none => "0.0"

def int64Min : Int := -Int.pow 2 63

def int64Max : Int := Int.pow 2 63 - 1

def digitsValue (ds : List Char) : Nat := ds.foldl (fun n c => 10 * n + (c.toNat - '0'.toNat)) 0

/-- A sign, if there is one, and what follows. -/
def signed : List Char → Bool × List Char
  | '-' :: rest => (true, rest)
  | '+' :: rest => (false, rest)
  | s => (false, s)

/-- The integer at the start of a text, after blanks; zero if there is none, or if it does not fit
into 64 bits. -/
def leadingInteger (s : String) : Int :=
  let (negative, rest) := signed (trimStart s.toList)
  let n : Int := digitsValue (rest.takeWhile Char.isDigit)
  let i := if negative then -n else n
  if int64Min ≤ i ∧ i ≤ int64Max then i else 0

/-- The exponent at the start of a text, if it is complete. -/
def leadingExponent : List Char → Int
  | c :: rest =>
    let (negative, digits) := signed rest
    let n : Int := digitsValue (digits.takeWhile Char.isDigit)
    if c = 'e' ∨ c = 'E' then if negative then -n else n else 0
  | [] => 0

/-- The number at the start of a text, after blanks. An exponent counts if it is complete; without
a digit before it the number is zero. -/
def leadingReal (s : String) : Option Binary64 :=
  let (negative, rest) := signed (trimStart s.toList)
  let whole := rest.takeWhile Char.isDigit
  let rest := rest.dropWhile Char.isDigit
  let (places, rest) := match rest with
    | '.' :: after => (after.takeWhile Char.isDigit, after.dropWhile Char.isDigit)
    | _ => ([], rest)
  if whole.isEmpty && places.isEmpty then some (.zero false)
  else Binary64.ofDecimal negative (digitsValue (whole ++ places)) (leadingExponent rest - places.length)

/-- The integer part of a number; beyond 64 bits, the nearest bound. -/
def integerPart (n : Json.Number) : Int :=
  n.int64?.getD (max int64Min (min int64Max n.toBinary64.truncate))

def integerLiteral : Json → String
  | .number n => toString (integerPart n)
  | .string s => toString (leadingInteger s)
  | .bool b => if b then "1" else "0"
  | _ => "0"

def realLiteral : Json → String
  | .number n => floatLiteral (some n.toBinary64)
  | .string s => floatLiteral (leadingReal s)
  | _ => "0.0"

def truth : Json → Bool
  | .bool b => b
  | .string s => sameUpToAsciiCase (trimmed s) "true"
  | .number n => !n.toBinary64.isZero
  | _ => true

/-- A string as it is; any other value as the text of it. -/
def textLiteral : Json → String
  | .string s => stringLiteral s
  | value => stringLiteral value.compact

def plainLiteral : Json → String
  | .number n => n.text
  | .bool b => boolLiteral b
  | value => textLiteral value

/-- A value of the model as a literal of the given type. -/
def literal (value : Json) (type : DataType) : String :=
  if value.isNull then "None"
  else match type with
    | .boolean => boolLiteral (truth value)
    | .integer => integerLiteral value
    | .real => realLiteral value
    | .string => textLiteral value
    | .date => textLiteral value
    | .datetime => textLiteral value
    | .instRef _ => "None"
    | .instRefSet _ => "None"
    | _ => plainLiteral value

end Python

namespace DataType

def annotation : DataType → String
  | .boolean => "bool"
  | .integer => "int"
  | .real => "float"
  | .timestamp => "float"
  | .string => "str"
  | .date => "str"
  | .datetime => "str"
  | .uniqueId => "str"
  | .void => "None"
  | .set => "set"
  | .bag => "list"
  | .sequence => "list"
  | .instRefSet none => "list"
  | .instRef c => "Optional['" ++ c ++ "']"
  | .instRefSet (some c) => "List['" ++ c ++ "']"
  | .any => "Any"
  | .unknown _ => "Any"

/-- What an attribute of the type starts with. -/
def initial : DataType → String
  | .boolean => "False"
  | .integer => "0"
  | .real => "0.0"
  | .timestamp => "0.0"
  | .string => "''"
  | .date => "''"
  | .datetime => "''"
  | .uniqueId => "str(uuid.uuid4())"
  | .set => "set()"
  | .bag => "[]"
  | .sequence => "[]"
  | .instRefSet _ => "[]"
  | .void => "None"
  | .any => "None"
  | .instRef _ => "None"
  | .unknown _ => "None"

/-- A parameter that would share or generate its value has no value instead. -/
def parameterDefault (type : DataType) : String :=
  match type with
  | .uniqueId => "None"
  | .set => "None"
  | .bag => "None"
  | .sequence => "None"
  | .instRefSet _ => "None"
  | _ => type.initial

end DataType

def Attribute.initializer (a : Attribute) : String :=
  match a.defaultValue with
  | some value => if value.isNull then a.type.initial else Python.literal value a.type
  | none => a.type.initial

end ExecutableUml
