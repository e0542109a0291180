/-! Sorted lists of text without repetition. -/

namespace ExecutableUml.Text

/-- Inserts a text into a sorted list that has each text once. -/
def insertSorted (s : String) : List String → List String
  | [] => [s]
  | t :: ts => if s < t then s :: t :: ts else if s = t then t :: ts else t :: insertSorted s ts

def sortedSet (l : List String) : List String := l.foldl (fun acc s => insertSorted s acc) []

end ExecutableUml.Text
