import ExecutableUml.Text.Emoji
import ExecutableUml.Text.Joining
import ExecutableUml.Text.Wide

/-! Columns of a text on a terminal. A text is read from its end, because a character may merge with
those that follow it: emoji sequences and some pairs of letters take the columns of one sign. -/

namespace ExecutableUml.Text

/-- The end of a ligature of letters. `joined` tells that a joiner stands before it. -/
inductive LigatureEnd where
  | alef
  | lamed (joined : Bool)
  | ya (joined : Bool)
  | vowelYa
  | consonant (joined : Bool)
  | joinerConsonant
  | toneLetter
  | orkhonI (joined : Bool)
  | coengLetter
deriving DecidableEq, Repr

/-- What the characters that follow can merge with. -/
inductive Following where
  | nothing
  | lineFeed
  | skinTone
  | regionalSign
  | regionalSigns
  | emoji
  | joinedEmoji
  | joinedKeycap
  | joinedRegionalSign
  | joinedRegionalPairs
  | joinedRegionalOdd
  | joinedTags (letters : Nat)
  | joinedTagDigits (digits : Nat)
  | vowelE
  | vowelAi
  | ligature (stop : LigatureEnd)
deriving DecidableEq, Repr

/-- A selector that stands right after a character and changes how it is shown. -/
inductive Selector where
  | none
  | emojiStyle
  | textStyle
  | fullWidth
deriving DecidableEq, Repr

structure WidthContext where
  following : Following
  selector : Selector
deriving DecidableEq, Repr

namespace WidthContext

def start : WidthContext := ⟨.nothing, .none⟩

def before (following : Following) : WidthContext := ⟨following, .none⟩

end WidthContext

def within (c : Char) (first last : Nat) : Bool := first ≤ c.toNat && c.toNat ≤ last

def zeroWidthJoiner : Char := '\u200d'

def isRegionalSign (c : Char) : Bool := within c 0x1F1E6 0x1F1FF

def isSkinTone (c : Char) : Bool := within c 0x1F3FB 0x1F3FF

def isTagLetter (c : Char) : Bool := within c 0xE0061 0xE007A

def isTagDigit (c : Char) : Bool := within c 0xE0030 0xE0039

def isTifinaghConsonant (c : Char) : Bool := within c 0x2D31 0x2D65 || c.toNat == 0x2D6F

/-- Whether the emoji selector turns the character into an emoji. -/
def takesEmojiStyle (c : Char) : Bool :=
  if c.toNat < 128 then c.isDigit || c == '#' || c == '*' else emojiStyleRanges.has c

def isSingleOrDoubleQuote (c : Char) : Bool := within c 0x2018 0x2019 || within c 0x201C 0x201D

/-- Letters of the lam group, which merge with an alef. -/
def isLam (c : Char) : Bool :=
  [0x644, 0x6B5, 0x6B6, 0x6B7, 0x6B8, 0x76A, 0x8A6, 0x8C7].contains c.toNat

/-- Letters of the alef group. -/
def isAlef (c : Char) : Bool :=
  [0x622, 0x623, 0x625, 0x627, 0x671, 0x672, 0x673, 0x675, 0x773, 0x774].contains c.toNat ||
    within c 0x870 0x882

/-- Letters that can stand below another letter after a coeng sign. -/
def isCoengLetter (c : Char) : Bool :=
  within c 0x1780 0x1782 || within c 0x1784 0x1787 || within c 0x1789 0x178C ||
    within c 0x178E 0x1793 || within c 0x1795 0x1798 || within c 0x179B 0x179D ||
    [0x17A0, 0x17A2, 0x17A7, 0x17AB, 0x17AC, 0x17AF].contains c.toNat

/-- Marks that are ignored when they are not supported. They do not part a ligature. -/
def isIgnorableMark (c : Char) : Bool :=
  c.toNat == 0x34F || within c 0x17B4 0x17B5 || within c 0x180B 0x180D || c.toNat == 0x180F ||
    within c 0xFE00 0xFE0F || within c 0xE0100 0xE01EF

def isWeightless (c : Char) : Bool := weightlessRanges.has c

/-- Columns of a character by itself, and what it offers to the one before it. -/
def loneWidth (c : Char) : Int × WidthContext :=
  let n := c.toNat
  if n == 0x5DC then (1, .before (.ligature (.lamed false)))
  else if isAlef c then (1, .before (.ligature .alef))
  else if isCoengLetter c then (1, .before (.ligature .coengLetter))
  else if n == 0x17D8 then (3, .start)
  else if n == 0x1A10 then (1, .before (.ligature (.ya false)))
  else if isTifinaghConsonant c then (1, .before (.ligature (.consonant false)))
  else if within c 0xA4FC 0xA4FD then (1, .before (.ligature .toneLetter))
  else if n == 0xFE01 then (0, ⟨.nothing, .fullWidth⟩)
  else if n == 0xFE0E then (0, ⟨.nothing, .textStyle⟩)
  else if n == 0xFE0F then (0, ⟨.nothing, .emojiStyle⟩)
  else if n == 0x10C03 then (1, .before (.ligature (.orkhonI false)))
  else if n == 0x16D67 then (1, .before .vowelE)
  else if n == 0x16D68 then (1, .before .vowelAi)
  else if isRegionalSign c then (1, .before .regionalSign)
  else if isSkinTone c then (2, .before .skinTone)
  else if emojiRanges.has c then (2, .before .emoji)
  else if wideRanges.has c then (2, .start)
  else if isWeightless c then (0, .start)
  else (1, .start)

namespace LigatureEnd

/-- A joiner before the end of a ligature. -/
def join : LigatureEnd → LigatureEnd
  | .lamed _ => .lamed true
  | .ya _ => .ya true
  | .consonant _ => .consonant true
  | .orkhonI _ => .orkhonI true
  | stop => stop

/-- Columns that a character adds in front of the end of a ligature, if it belongs to it. -/
def merge? (c : Char) : LigatureEnd → Option (Int × WidthContext)
  | .alef =>
    if isLam c then some (0, .start)
    else if isWeightless c && !joinBlockingRanges.has c then some (0, .before (.ligature .alef))
    else none
  | .lamed joined => if joined && c.toNat == 0x5D0 then some (0, .start) else none
  | .ya joined =>
    if joined && c.toNat == 0x1A17 then some (0, .before (.ligature .vowelYa)) else none
  | .vowelYa => if c.toNat == 0x1A15 then some (0, .start) else none
  | .consonant joined =>
    if c.toNat == 0x2D7F then some (1, .before (.ligature .joinerConsonant))
    else if joined && isTifinaghConsonant c then some (0, .start)
    else none
  | .joinerConsonant => if isTifinaghConsonant c then some (-1, .start) else none
  | .toneLetter => if within c 0xA4F8 0xA4FB then some (0, .start) else none
  | .orkhonI joined => if joined && c.toNat == 0x10C32 then some (0, .start) else none
  | .coengLetter => if c.toNat == 0x17D2 then some (-1, .start) else none

end LigatureEnd

namespace Following

/-- Characters that do not part the ligature that follows; a joiner is remembered. -/
def passOver? (c : Char) : Following → Option Following
  | .ligature .alef => none
  | .ligature stop =>
    if c = zeroWidthJoiner then some (.ligature stop.join)
    else if isIgnorableMark c then some (.ligature stop)
    else none
  | _ => none

/-- What a selector in front leaves of it. -/
def behindSelector : Following → Following
  | .ligature stop => .ligature stop
  | _ => .nothing

/-- What the emoji selector in front leaves of it; an emoji after a joiner stays. -/
def behindEmojiSelector : Following → Following
  | .joinedEmoji => .joinedEmoji
  | .joinedKeycap => .joinedKeycap
  | f => f.behindSelector

/-- Columns that a character adds in front of an emoji that it is joined to. -/
def mergeJoinedEmoji? (c : Char) : Option (Int × WidthContext) :=
  if c.toNat == 0x20E3 then some (0, .before .joinedKeycap)
  else if isRegionalSign c then some (1, .before .joinedRegionalSign)
  else if isSkinTone c then some (0, .before .skinTone)
  else if c.toNat == 0xE007F then some (0, .before (.joinedTags 0))
  else if (loneWidth c).2 = .before .emoji then some (0, .before .emoji)
  else none

/-- Tags behind a flag spell a region: three to six letters, or three digits and up to four
letters. -/
def mergeTags? (c : Char) (letters : Nat) : Option (Int × WidthContext) :=
  if isTagLetter c && letters < 6 then some (0, .before (.joinedTags (letters + 1)))
  else if isTagDigit c && letters ≤ 4 then some (0, .before (.joinedTagDigits 1))
  else if c.toNat == 0x1F3F4 && 3 ≤ letters then some (0, .before .emoji)
  else none

def mergeTagDigits? (c : Char) (digits : Nat) : Option (Int × WidthContext) :=
  if isTagDigit c && digits < 3 then some (0, .before (.joinedTagDigits (digits + 1)))
  else if c.toNat == 0x1F3F4 && digits = 3 then some (0, .before .emoji)
  else none

def joinEmoji? (c : Char) : Option (Int × WidthContext) :=
  if c = zeroWidthJoiner then some (0, .before .joinedEmoji) else none

/-- Columns that a character adds in front of what follows, if the two merge. -/
def merge? (c : Char) : Following → Option (Int × WidthContext)
  | .nothing => none
  | .lineFeed => none
  | .skinTone => if modifierBaseRanges.has c then some (0, .before .emoji) else joinEmoji? c
  | .regionalSign => if isRegionalSign c then some (1, .before .regionalSigns) else none
  | .regionalSigns => if isRegionalSign c then some (1, .before .regionalSigns) else joinEmoji? c
  | .emoji => joinEmoji? c
  | .joinedEmoji => mergeJoinedEmoji? c
  | .joinedKeycap => none
  | .joinedRegionalSign =>
    if isRegionalSign c then some (-1, .before .joinedRegionalPairs) else none
  | .joinedRegionalPairs =>
    if isRegionalSign c then some (3, .before .joinedRegionalOdd) else joinEmoji? c
  | .joinedRegionalOdd =>
    if isRegionalSign c then some (-1, .before .joinedRegionalPairs) else joinEmoji? c
  | .joinedTags letters => mergeTags? c letters
  | .joinedTagDigits digits => mergeTagDigits? c digits
  | .vowelE =>
    if c.toNat == 0x16D63 || c.toNat == 0x16D69 then some (0, .start)
    else if c.toNat == 0x16D67 then some (0, .before .vowelAi)
    else if c.toNat == 0x16D68 then some (1, .before .vowelE)
    else none
  | .vowelAi => if c.toNat == 0x16D63 then some (0, .start) else none
  | .ligature stop => stop.merge? c

end Following

/-- Columns of a character above the basic ones, in front of what follows. -/
def mergedWidth (c : Char) (f : Following) : Int × WidthContext :=
  match f.passOver? c with
  | some f => (0, .before f)
  | none => (f.merge? c).getD (loneWidth c)

/-- Columns of a basic character. A line break of two characters takes one column. -/
def basicWidth (c : Char) (f : Following) : Int × WidthContext :=
  if c = '\n' then (1, .before .lineFeed)
  else if c = '\r' && f = .lineFeed then (0, .start)
  else (1, .start)

/-- Columns of a character without a selector that applies to it. -/
def unselectedWidth (c : Char) (f : Following) : Int × WidthContext :=
  if c.toNat ≤ 0xA0 then basicWidth c f
  else if c.toNat == 0xFE0F then (0, ⟨f.behindEmojiSelector, .emojiStyle⟩)
  else if c.toNat == 0xFE0E then (0, ⟨f.behindSelector, .textStyle⟩)
  else if c.toNat == 0xFE01 then (0, ⟨f.behindSelector, .fullWidth⟩)
  else mergedWidth c f

/-- Columns that a character adds in front of what follows it. -/
def widthBefore (c : Char) (ctx : WidthContext) : Int × WidthContext :=
  match ctx.selector with
  | .none => unselectedWidth c ctx.following
  | .emojiStyle =>
    if takesEmojiStyle c then
      (if ctx.following = .joinedEmoji || ctx.following = .joinedKeycap then 0 else 2, .before .emoji)
    else unselectedWidth c ctx.following.behindSelector
  | .textStyle =>
    if textStyleRanges.has c then (1, .start) else unselectedWidth c ctx.following
  | .fullWidth =>
    if isSingleOrDoubleQuote c then (2, .start) else unselectedWidth c ctx.following

/-- Columns of a text, and what it offers to a character in front of it. -/
def measure (s : List Char) : Int × WidthContext :=
  s.foldr (fun c rest => ((widthBefore c rest.2).1 + rest.1, (widthBefore c rest.2).2)) (0, .start)

/-- Columns that a text takes on a terminal. -/
def columns (s : List Char) : Nat := (measure s).1.toNat

end ExecutableUml.Text
