import ExecutableUml.Text.CharClass

/-! Trimming, lines and splitting of text held as a list of characters. -/

namespace ExecutableUml.Text

def trimStart (s : List Char) : List Char := s.dropWhile isBlank

def trimEnd (s : List Char) : List Char := (s.reverse.dropWhile isBlank).reverse

def trim (s : List Char) : List Char := trimEnd (trimStart s)

def trimmed (s : String) : String := String.ofList (trim s.toList)

/-- Pieces between separators; a text without the separator is one piece. -/
def splitAtChar (sep : Char) : List Char → List (List Char)
  | [] => [[]]
  | c :: rest =>
    if c = sep then [] :: splitAtChar sep rest
    else match splitAtChar sep rest with
      | [] => [[c]]
      | piece :: pieces => (c :: piece) :: pieces

/-- The text before and after the first separator. -/
def cutAtChar (sep : Char) : List Char → Option (List Char × List Char)
  | [] => none
  | c :: rest =>
    if c = sep then some ([], rest)
    else (cutAtChar sep rest).map fun (before, after) => (c :: before, after)

/-- The text before and after the last separator. -/
def cutAtLastChar (sep : Char) (s : List Char) : Option (List Char × List Char) :=
  (cutAtChar sep s.reverse).map fun (after, before) => (before.reverse, after.reverse)

/-- What follows `start`, if the text begins with it. -/
def stripStart : List Char → List Char → Option (List Char)
  | [], s => some s
  | _ :: _, [] => none
  | p :: ps, c :: cs => if p = c then stripStart ps cs else none

def startsWith (start s : List Char) : Bool := (stripStart start s).isSome

/-- What precedes `stop`, if the text ends with it. -/
def stripEnd (stop s : List Char) : Option (List Char) :=
  (stripStart stop.reverse s.reverse).map List.reverse

/-- Whether `part` occurs somewhere in the text. -/
def occursIn (part : List Char) : List Char → Bool
  | [] => part.isEmpty
  | c :: rest => startsWith part (c :: rest) || occursIn part rest

/-- Every occurrence of `part`, taken from the left, replaced. An empty `part` changes nothing. -/
def replaceAll (part by_ : List Char) (s : List Char) : List Char :=
  go s.length s
where
  go : Nat → List Char → List Char
    | 0, s => s
    | _ + 1, [] => []
    | n + 1, c :: rest =>
      match part, stripStart part (c :: rest) with
      | _ :: _, some after => by_ ++ go n after
      | _, _ => c :: go n rest

def joinWith (sep : String) : List String → String
  | [] => ""
  | [s] => s
  | s :: rest => s ++ sep ++ joinWith sep rest

end ExecutableUml.Text
