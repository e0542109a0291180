import ExecutableUml.Text.Alphabetic
import ExecutableUml.Text.Numeric

/-! Character classes of action text: blanks, digits, letters and the characters of a word. -/

namespace ExecutableUml.Text

/-- The White_Space property. -/
def blankRanges : Ranges := [
  (0x9, 0xD), (0x20, 0x20), (0x85, 0x85), (0xA0, 0xA0), (0x1680, 0x1680), (0x2000, 0x200A),
  (0x2028, 0x2029), (0x202F, 0x202F), (0x205F, 0x205F), (0x3000, 0x3000)]

def isBlank (c : Char) : Bool := blankRanges.has c

/-- Letters of every script; below 128 these are the ASCII letters. -/
def isLetter (c : Char) : Bool :=
  if c.toNat < 128 then c.isAlpha else alphabeticRanges.has c

/-- Numbers of every script; below 128 these are the ASCII digits. -/
def isNumeral (c : Char) : Bool :=
  if c.toNat < 128 then c.isDigit else numericRanges.has c

/-- A word starts with a letter or an underscore. -/
def isWordStart (c : Char) : Bool := isLetter c || c == '_'

/-- A word goes on with letters, numbers and underscores. -/
def isWordChar (c : Char) : Bool := isLetter c || isNumeral c || c == '_'

theorem isWordChar_of_isWordStart {c : Char} (h : isWordStart c = true) : isWordChar c = true := by
  simp only [isWordStart, isWordChar, Bool.or_eq_true] at *
  rcases h with h | h
  · exact Or.inl (Or.inl h)
  · exact Or.inr h

end ExecutableUml.Text
