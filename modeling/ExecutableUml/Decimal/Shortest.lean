import ExecutableUml.Decimal.Binary64

/-! The shortest decimal that reads back as a given binary64 number, and the nearest of those. -/

namespace ExecutableUml.Decimal

/-- The number `digits * 10 ^ exponent`. -/
structure Scientific where
  digits : Nat
  exponent : Int
deriving DecidableEq, Repr

/-- Which of two equally near decimals is taken. -/
inductive Tie where
  | up
  | toEven
deriving DecidableEq

namespace Scientific

/-- `x / 10 ^ e`, where `x` is a ratio, as a ratio. -/
def overTenTo (x : Nat × Nat) (e : Int) : Nat × Nat :=
  if 0 ≤ e then (x.1, x.2 * Nat.pow 10 e.toNat) else (x.1 * Nat.pow 10 (-e).toNat, x.2)

/-- Twice the number and the ends of the interval that rounds to it, over one denominator: the
lower end, the number, the upper end, the denominator. -/
def interval (x : Binary64) : Nat × Nat × Nat × Nat :=
  let below := if x.mantissa = Nat.pow 2 52 && -1074 < x.exponent then 1 else 2
  let e := x.exponent - 2
  let up := if 0 ≤ e then Nat.pow 2 e.toNat else 1
  let down := if 0 ≤ e then 1 else Nat.pow 2 (-e).toNat
  ((4 * x.mantissa - below) * up, 4 * x.mantissa * up, (4 * x.mantissa + 2) * up, down)

/-- Whether `d * 10 ^ e` rounds to `x`; the ends belong to an even mantissa. -/
def roundsTo (x : Binary64) (e : Int) (d : Nat) : Bool :=
  let (lo, _, hi, den) := interval x
  let (lo, den') := overTenTo (lo, den) e
  let (hi, _) := overTenTo (hi, den) e
  if x.mantissa % 2 = 0 then lo ≤ d * den' && d * den' ≤ hi else lo < d * den' && d * den' < hi

/-- The decimal exponent of the leading digit. Every number is at least `10 ^ -324`. -/
def leading (x : Binary64) : Int :=
  let scaled := x.ratio.1 * Nat.pow 10 324 / x.ratio.2
  ((Nat.toDigits 10 scaled).length : Int) - 325

/-- The nearer of the two neighbours on the grid `10 ^ e` that round to `x`, if one does. -/
def onGrid (tie : Tie) (x : Binary64) (e : Int) : Option Nat :=
  let (n, d) := overTenTo x.ratio e
  let low := n / d
  let rest := n % d
  match roundsTo x e low, roundsTo x e (low + 1) with
  | false, false => none
  | true, false => some low
  | false, true => some (low + 1)
  | true, true =>
    if 2 * rest < d then some low
    else if d < 2 * rest then some (low + 1)
    else match tie with
      | .up => some (low + 1)
      | .toEven => if low % 2 = 0 then some low else some (low + 1)

/-- The digits without their trailing zeros. -/
def normalize (s : Scientific) : Scientific :=
  go (Nat.toDigits 10 s.digits).length s
where
  go : Nat → Scientific → Scientific
    | 0, s => s
    | n + 1, s =>
      if s.digits ≠ 0 ∧ s.digits % 10 = 0 then go n ⟨s.digits / 10, s.exponent + 1⟩ else s

/-- Seventeen digits always suffice. -/
def shortest (tie : Tie) (x : Binary64) : Scientific :=
  if x.mantissa = 0 then ⟨0, 0⟩
  else
    let top := leading x
    match (List.range 17).findSome? fun (k : Nat) =>
      (onGrid tie x (top - k)).map fun d => Scientific.mk d (top - k) with
    | some s => s.normalize
    | none => ⟨x.floorAbs, 0⟩

def zeros (n : Nat) : String := String.ofList (List.replicate n '0')

/-- Without an exponent, and without a fraction for an integer. -/
def positional (s : Scientific) : String :=
  let ds := Nat.toDigits 10 s.digits
  if 0 ≤ s.exponent then String.ofList ds ++ zeros s.exponent.toNat
  else
    let places := (-s.exponent).toNat
    if places < ds.length then
      String.ofList (ds.take (ds.length - places)) ++ "." ++ String.ofList (ds.drop (ds.length - places))
    else "0." ++ zeros (places - ds.length) ++ String.ofList ds

/-- The decimal exponent of the first digit. -/
def magnitude (s : Scientific) : Int := s.exponent + (Nat.toDigits 10 s.digits).length - 1

/-- One digit before the point; the sign of the exponent is always written. -/
def exponential (s : Scientific) : String :=
  let ds := Nat.toDigits 10 s.digits
  let e := s.magnitude
  let fraction := if ds.length ≤ 1 then "" else "." ++ String.ofList (ds.drop 1)
  String.ofList (ds.take 1) ++ fraction ++ "e" ++ (if e < 0 then "-" else "+") ++ toString e.natAbs

end Scientific

/-- The exact integer value with one decimal place. -/
def Binary64.integral (x : Binary64) : String :=
  (if x.negative then "-" else "") ++ toString x.floorAbs ++ ".0"

/-- Positional with the fewest digits that read back; a tie goes up. -/
def Binary64.plain (x : Binary64) : String :=
  (if x.negative then "-" else "") ++ (Scientific.shortest .up x).positional

end ExecutableUml.Decimal
