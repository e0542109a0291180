import ExecutableUml.Text.Case
import ExecutableUml.Text.Trim

/-! Names in the generated code: identifiers made from model names, and distinct ones. -/

namespace ExecutableUml.Python

open Text

def keywords : List String :=
  ["False", "None", "True", "and", "as", "assert", "async", "await", "break", "class", "continue",
   "def", "del", "elif", "else", "except", "finally", "for", "from", "global", "if", "import", "in",
   "is", "lambda", "nonlocal", "not", "or", "pass", "raise", "return", "try", "while", "with",
   "yield"]

/-- Not empty, and no digit in front. -/
def withWordStart : List Char → List Char
  | [] => ['_']
  | c :: cs => if c.isDigit then '_' :: c :: cs else c :: cs

/-- Every character that cannot stand in an identifier becomes an underscore. A keyword gets one
behind it. -/
def identifier (name : String) : String :=
  let word := String.ofList
    (withWordStart ((trim name.toList).map fun c => if isWordChar c then c else '_'))
  if keywords.contains word then word ++ "_" else word

/-- The number of a form is counted in 32 bits with a sign, so it becomes negative behind
`2 ^ 31 - 1`. Once all of these are used up there is no form that was not tried; the count goes on
here, which gives every form a number of its own. -/
def formNumber (k : Nat) : Int :=
  if k ≤ Nat.pow 2 32 then Int.bmod (k + 1) (Nat.pow 2 32) else k + 1

/-- `base`, then `base_2`, `base_3` and so on. -/
def numbered (base : String) (k : Nat) : String :=
  if k = 0 then base else base ++ "_" ++ toString (formNumber k)

/-- The first numbered form whose key is not taken. Of one more form than there are taken keys, one
is free. -/
def freeName (key : String → String) (taken : List String) (base : String) : String :=
  (((List.range (taken.length + 1)).map (numbered base)).find? fun c =>
    !taken.contains (key c)).getD base

def namesFrom (taken : List String) : List String → List String
  | [] => []
  | name :: names =>
    let chosen := freeName lower taken (identifier name)
    chosen :: namesFrom (lower chosen :: taken) names

/-- An identifier for each name, no two of them equal in lower case. -/
def distinctNames (names : List String) : List String := namesFrom [] names

end ExecutableUml.Python
