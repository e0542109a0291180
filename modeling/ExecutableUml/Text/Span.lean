import ExecutableUml.Text.Trim

/-! Byte ranges of a line of text. A range that does not fall on character boundaries holds
nothing. -/

namespace ExecutableUml.Text

def byteLength (s : List Char) : Nat := s.foldr (fun c n => c.utf8Size + n) 0

/-- The text after the first `n` bytes. -/
def dropBytes : Nat → List Char → Option (List Char)
  | 0, s => some s
  | _ + 1, [] => none
  | n + 1, c :: rest =>
    if c.utf8Size ≤ n + 1 then dropBytes (n + 1 - c.utf8Size) rest else none

/-- The first `n` bytes of the text. -/
def takeBytes : Nat → List Char → Option (List Char)
  | 0, _ => some []
  | _ + 1, [] => none
  | n + 1, c :: rest =>
    if c.utf8Size ≤ n + 1 then (takeBytes (n + 1 - c.utf8Size) rest).map (c :: ·) else none

structure Span where
  start : Nat
  stop : Nat
deriving DecidableEq, Repr

/-- The smallest range that covers both. -/
def Span.cover (a b : Span) : Span := ⟨min a.start b.start, max a.stop b.stop⟩

def Span.isEmpty (s : Span) : Bool := s.stop ≤ s.start

def Span.slice (s : Span) (source : List Char) : List Char :=
  if s.start ≤ s.stop then
    (((dropBytes s.start source).bind (takeBytes (s.stop - s.start)))).getD []
  else []

end ExecutableUml.Text
