/-! Points in time and their text in the proleptic Gregorian calendar. -/

namespace ExecutableUml.Execution

/-- Seconds since the start of 1970 and a fraction in nanoseconds. A fraction of a second or more
stands for the leap second after a minute's last second. -/
structure Instant where
  seconds : Int
  nanos : Nat
deriving DecidableEq, Repr

structure Date where
  year : Int
  month : Nat
  day : Nat
deriving DecidableEq, Repr

/-- Decimal digits with zeros in front up to `width` characters. -/
def padded (width n : Nat) : String :=
  let digits := toString n
  String.ofList (List.replicate (width - digits.length) '0') ++ digits

namespace Date

/-- The date so many days after the start of 1970. Years are counted from March in cycles of 400
years, so that a leap day ends its year. -/
def ofDays (days : Int) : Date :=
  let shifted := days + 719468
  let cycle := shifted.fdiv 146097
  let dayOfCycle := (shifted.fmod 146097).toNat
  let yearOfCycle :=
    (dayOfCycle - dayOfCycle / 1460 + dayOfCycle / 36524 - dayOfCycle / 146096) / 365
  let dayOfYear := dayOfCycle - (365 * yearOfCycle + yearOfCycle / 4 - yearOfCycle / 100)
  let monthFromMarch := (5 * dayOfYear + 2) / 153
  let month := if monthFromMarch < 10 then monthFromMarch + 3 else monthFromMarch - 9
  let year := cycle * 400 + yearOfCycle
  { year := if month ≤ 2 then year + 1 else year
    month
    day := dayOfYear - (153 * monthFromMarch + 2) / 5 + 1 }

/-- Years of four digits are written bare, all others with a sign. -/
def yearText (year : Int) : String :=
  if 0 ≤ year ∧ year ≤ 9999 then padded 4 year.toNat
  else (if year < 0 then "-" else "+") ++ padded 4 year.natAbs

def text (d : Date) : String := yearText d.year ++ "-" ++ padded 2 d.month ++ "-" ++ padded 2 d.day

end Date

/-- As few groups of three digits as tell the fraction; none for a whole second. -/
def fractionText (nanos : Nat) : String :=
  if nanos = 0 then ""
  else if nanos % 1000000 = 0 then "." ++ padded 3 (nanos / 1000000)
  else if nanos % 1000 = 0 then "." ++ padded 6 (nanos / 1000)
  else "." ++ padded 9 nanos

namespace Instant

def epoch : Instant := ⟨0, 0⟩

def date (t : Instant) : Date := .ofDays (t.seconds.fdiv 86400)

def timeText (t : Instant) : String :=
  let second := (t.seconds.fmod 86400).toNat
  let leap := t.nanos / 1000000000
  padded 2 (second / 3600) ++ ":" ++ padded 2 (second / 60 % 60) ++ ":" ++
    padded 2 (second % 60 + leap) ++ fractionText (t.nanos % 1000000000)

def dateText (t : Instant) : String := t.date.text

def text (t : Instant) : String := t.dateText ++ " " ++ t.timeText ++ " UTC"

/-- The instants of the years -262143 to 262142 whose fraction is below a second, or below two at
the end of a minute. -/
def ofTimestamp? (seconds : Int) (nanos : Nat) : Option Instant :=
  let t : Instant := ⟨seconds, nanos⟩
  if t.date.year < -262143 ∨ 262142 < t.date.year then none
  else if nanos < 1000000000 ∨ nanos < 2000000000 ∧ seconds.fmod 60 = 59 then some t
  else none

end Instant

end ExecutableUml.Execution
