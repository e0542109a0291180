/-! Finite binary64 numbers as a sign, a mantissa and a binary exponent, with correct rounding of
ratios of naturals. -/

namespace ExecutableUml.Decimal

/-- The number `± mantissa * 2 ^ exponent`. The mantissa is below `2 ^ 53`, and at least `2 ^ 52`
unless the exponent is the least one, `-1074`. -/
structure Binary64 where
  negative : Bool
  mantissa : Nat
  exponent : Int
deriving DecidableEq, Repr

namespace Binary64

def zero (negative : Bool) : Binary64 := ⟨negative, 0, -1074⟩

/-- `n / d` to the nearest natural, a half to the even one. -/
def roundDiv (n d : Nat) : Nat :=
  let q := n / d
  let r := n % d
  if d < 2 * r || (2 * r == d && q % 2 == 1) then q + 1 else q

/-- `num / den * 2 ^ (-e)` as a ratio. -/
def scaledRatio (num den : Nat) (e : Int) : Nat × Nat :=
  if 0 ≤ e then (num, den * Nat.pow 2 e.toNat) else (num * Nat.pow 2 (-e).toNat, den)

/-- The binary exponent at which `num / den` has 53 mantissa bits, or the least exponent. -/
def exponentOf (num den : Nat) : Int :=
  let low : Int := (num.log2 : Int) - (den.log2 : Int) - 53
  let ratio := scaledRatio num den low
  max (-1074) (if ratio.1 / ratio.2 < Nat.pow 2 53 then low else low + 1)

/-- The number nearest to `num / den`, a half to the even mantissa; `none` above the largest
finite number. -/
def ofRatio (negative : Bool) (num den : Nat) : Option Binary64 :=
  if num = 0 then some (zero negative)
  else
    let e := exponentOf num den
    let ratio := scaledRatio num den e
    let m := roundDiv ratio.1 ratio.2
    let x : Binary64 :=
      if m = Nat.pow 2 53 then ⟨negative, Nat.pow 2 52, e + 1⟩ else ⟨negative, m, e⟩
    if x.exponent ≤ 971 then some x else none

/-- The absolute value as a ratio of naturals. -/
def ratio (x : Binary64) : Nat × Nat :=
  if 0 ≤ x.exponent then (x.mantissa * Nat.pow 2 x.exponent.toNat, 1)
  else (x.mantissa, Nat.pow 2 (-x.exponent).toNat)

def isZero (x : Binary64) : Bool := x.mantissa == 0

/-- Equal as numbers: the two zeros are one. -/
def sameValue (x y : Binary64) : Bool := x == y || (x.isZero && y.isZero)

def ofNat (n : Nat) : Option Binary64 := ofRatio false n 1

/-- The largest finite number. -/
def largest (negative : Bool) : Binary64 := ⟨negative, Nat.pow 2 53 - 1, 971⟩

/-- The integer part, without the sign. -/
def floorAbs (x : Binary64) : Nat := x.ratio.1 / x.ratio.2

def isInteger (x : Binary64) : Bool := x.ratio.1 % x.ratio.2 == 0

/-- Rounded toward zero. -/
def truncate (x : Binary64) : Int := if x.negative then -(x.floorAbs : Int) else x.floorAbs

/-- The number nearest to `± digits * 10 ^ exponent`; `none` beyond the largest finite number. The
bounds on the exponent keep the powers small: outside them the result is settled. -/
def ofDecimal (negative : Bool) (digits : Nat) (exponent : Int) : Option Binary64 :=
  let size : Int := (Nat.toDigits 10 digits).length
  if digits = 0 then some (zero negative)
  else if 310 < size + exponent then none
  else if size + exponent < -330 then some (zero negative)
  else if 0 ≤ exponent then ofRatio negative (digits * Nat.pow 10 exponent.toNat) 1
  else ofRatio negative digits (Nat.pow 10 (-exponent).toNat)

/-- Multiplied by the number nearest to `10 ^ n`, with one more rounding. -/
def timesTenTo (x : Binary64) (n : Nat) : Option Binary64 := do
  let p ← ofRatio false (Nat.pow 10 n) 1
  ofRatio x.negative (x.ratio.1 * p.ratio.1) (x.ratio.2 * p.ratio.2)

/-- Divided by the number nearest to `10 ^ n`, with one more rounding. -/
def overTenTo (x : Binary64) (n : Nat) : Option Binary64 := do
  let p ← ofRatio false (Nat.pow 10 n) 1
  ofRatio x.negative (x.ratio.1 * p.ratio.2) (x.ratio.2 * p.ratio.1)

end Binary64

end ExecutableUml.Decimal
