/-! Sets of characters as ranges of code points, and case maps as shifted ranges. -/

namespace ExecutableUml.Text

/-- First and last code point of each range, in increasing order. -/
abbrev Ranges := List (Nat × Nat)

def Ranges.has (ranges : Ranges) (c : Char) : Bool :=
  ranges.any fun range => range.1 ≤ c.toNat && c.toNat ≤ range.2

/-- Every `step`-th code point from `first` to `last` maps to the code point `offset` further on. -/
structure Shift where
  first : Nat
  last : Nat
  step : Nat
  offset : Int

def Shift.image? (shift : Shift) (n : Nat) : Option Nat :=
  if shift.first ≤ n && n ≤ shift.last && (n - shift.first) % shift.step == 0 then
    some (n + shift.offset).toNat
  else none

end ExecutableUml.Text
