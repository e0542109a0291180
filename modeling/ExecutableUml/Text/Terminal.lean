import ExecutableUml.Text.Width

/-! Control sequences of a terminal: they take no column and part the text around them. -/

namespace ExecutableUml.Text

/-- How far the reading of a control sequence has come. Characters may select a character set, or
marks, numbers between semicolons and a last character follow. -/
inductive SequenceStage where
  | opened
  | bracket
  | marks
  | number (digits : Nat)
  | separator
  | characterSet
  | finished
deriving DecidableEq, Repr

namespace SequenceStage

/-- Whether a sequence may end here. -/
def isEnd : SequenceStage → Bool
  | .number _ => true
  | .characterSet => true
  | .finished => true
  | _ => false

/-- Letters and signs that finish a sequence. -/
def isFinisher (c : Char) : Bool :=
  ('A' ≤ c && c ≤ 'P') || ('f' ≤ c && c ≤ 'n') || "RZcqry=><".toList.contains c

def isMark (c : Char) : Bool := "[()#;?".toList.contains c

def onDigit (c : Char) : SequenceStage → Option SequenceStage
  | .opened => some (.number 1)
  | .marks => some (.number 1)
  | .separator => some (.number 1)
  | .bracket => some (if c ≤ '2' then .characterSet else .number 1)
  | .number n => if n < 5 then some (.number (n + 1)) else none
  | _ => none

def onMark (c : Char) : SequenceStage → Option SequenceStage
  | .opened => some (if c == '(' || c == ')' then .bracket else .marks)
  | .bracket => some .marks
  | .marks => some .marks
  | .number n => if c == ';' && n < 5 then some .separator else none
  | .separator => if c == ';' then some .separator else none
  | _ => none

def onFinisher : SequenceStage → Option SequenceStage
  | .number n => if n < 5 then some .finished else none
  | .characterSet => none
  | .finished => none
  | _ => some .finished

def next? (c : Char) (stage : SequenceStage) : Option SequenceStage :=
  if c.isDigit then stage.onDigit c
  else if isMark c then stage.onMark c
  else if isFinisher c then stage.onFinisher
  else none

end SequenceStage

/-- The longest way to end a sequence: how many of the characters belong to it. -/
def sequenceLength (stage : SequenceStage) (taken : Nat) (longest : Option Nat) :
    List Char → Option Nat
  | [] => longest
  | c :: rest =>
    match stage.next? c with
    | none => longest
    | some stage =>
      sequenceLength stage (taken + 1) (if stage.isEnd then some (taken + 1) else longest) rest

/-- Characters that open a control sequence. -/
def opensSequence (c : Char) : Bool := c == '\x1b' || c == '\u009b'

/-- The parts of a text between its control sequences. -/
def partsBetweenSequences : List Char → List (List Char)
  | [] => [[]]
  | c :: rest =>
    match if opensSequence c then sequenceLength .opened 0 none rest else none with
    | some n => [] :: partsBetweenSequences (rest.drop n)
    | none =>
      match partsBetweenSequences rest with
      | [] => [[c]]
      | part :: parts => (c :: part) :: parts
termination_by s => s.length
decreasing_by
  all_goals simp only [List.length_drop, List.length_cons]
  all_goals omega

/-- Columns that a text takes on a terminal. -/
def width (s : String) : Nat :=
  (partsBetweenSequences s.toList).foldr (fun part n => columns part + n) 0

end ExecutableUml.Text
