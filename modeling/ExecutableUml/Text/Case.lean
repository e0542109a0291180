import ExecutableUml.Text.CharClass
import ExecutableUml.Text.Cased
import ExecutableUml.Text.Lowercase
import ExecutableUml.Text.Uppercase

/-! Case of text: full lower and upper case, and comparison up to ASCII case. -/

namespace ExecutableUml.Text

def expand (expansions : List (Nat × List Nat)) (shifts : List Shift) (c : Char) : List Char :=
  match expansions.find? fun e => e.1 == c.toNat with
  | some e => e.2.map Char.ofNat
  | none =>
    match shifts.findSome? fun s => s.image? c.toNat with
    | some n => [Char.ofNat n]
    | none => [c]

def lowerChar (c : Char) : List Char :=
  if c.toNat < 128 then [c.toLower] else expand lowerExpansions lowerShifts c

def upperChar (c : Char) : List Char :=
  if c.toNat < 128 then [c.toUpper] else expand upperExpansions upperShifts c

def isCased (c : Char) : Bool :=
  if c.toNat < 128 then c.isAlpha else casedRanges.has c

def isCaseIgnorable (c : Char) : Bool :=
  if c.toNat < 128 then "'.:^\x60".toList.contains c else caseIgnorableRanges.has c

/-- Whether the next character that counts for case is a cased letter. -/
def meetsCased (s : List Char) : Bool :=
  match s.dropWhile isCaseIgnorable with
  | [] => false
  | c :: _ => isCased c

/-- A capital sigma that ends a word becomes the final form; `before` is reversed. -/
def lowerFrom (before : List Char) : List Char → List Char
  | [] => []
  | c :: rest =>
    (if c = 'Σ' then [if meetsCased before && !meetsCased rest then 'ς' else 'σ'] else lowerChar c)
      ++ lowerFrom (c :: before) rest

def lower (s : String) : String := String.ofList (lowerFrom [] s.toList)

def upper (s : String) : String := String.ofList (s.toList.flatMap upperChar)

def asciiLower (s : String) : String := String.ofList (s.toList.map Char.toLower)

def sameUpToAsciiCase (a b : String) : Bool := asciiLower a == asciiLower b

end ExecutableUml.Text
