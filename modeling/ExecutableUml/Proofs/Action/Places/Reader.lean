import ExecutableUml.Action.Grammar

/-! A reader of statements by places. It goes over the tokens of a line with one position, takes
tokens at absolute places, counts open groups up and down, and cuts texts out of the line by byte
ranges. Whatever is out of range is a fault here, and so is a loop that goes round more often than
there are tokens. -/

namespace ExecutableUml.Action.Places

open Text

/-- What can go wrong when a line is read by places. -/
inductive Fault where
  | noToken (place : Nat)
  | noTokens (start stop : Nat)
  | noText (span : Span)
  | negativeDepth
  | endless
deriving DecidableEq, Repr

structure Line where
  chars : List Char
  toks : List (Token × Span)

def cut (chars : List Char) (span : Span) : Except Fault (List Char) :=
  if span.start ≤ span.stop then
    match (dropBytes span.start chars).bind (takeBytes (span.stop - span.start)) with
    | some text => .ok text
    | none => .error (.noText span)
  else .error (.noText span)

def withText (chars : List Char) (t : Token × Span) : Except Fault (Token × Span) := do
  return (⟨t.1.kind, ← cut chars t.2⟩, t.2)

def Line.ofChars (chars : List Char) : Except Fault Line := do
  let toks ← (located 0 (tokens chars)).mapM (withText chars)
  return ⟨chars, toks.filter fun t => !t.1.isBlank⟩

namespace Line

variable (line : Line)

def size : Nat := line.toks.length

def tokenAt (place : Nat) : Except Fault (Token × Span) :=
  match line.toks[place]? with
  | some t => .ok t
  | none => .error (.noToken place)

def tokensBetween (start stop : Nat) : Except Fault (List (Token × Span)) :=
  if start ≤ stop ∧ stop ≤ line.size then .ok ((line.toks.drop start).take (stop - start))
  else .error (.noTokens start stop)

def textBetween (start stop : Nat) : Except Fault String :=
  if start < stop ∧ stop ≤ line.size then do
    let first ← line.tokenAt start
    let last ← line.tokenAt (stop - 1)
    return String.ofList (trim (← cut line.chars ⟨first.2.start, last.2.stop⟩))
  else return ""

/-- The place behind the last token before `stop` that is no semicolon, not below `position`. -/
def contentEndBefore (position : Nat) : Nat → Except Fault Nat
  | 0 => return 0
  | stop + 1 => do
    if position < stop + 1 then
      if (← line.tokenAt stop).1.isPunct ";" then contentEndBefore position stop
      else return stop + 1
    else return stop + 1

def contentEnd (position : Nat) : Except Fault Nat := line.contentEndBefore position line.size

/-- The place of the parenthesis that closes the groups open before `place`. -/
def closingFrom (place depth : Nat) : List (Token × Span) → Except Fault (Option Nat)
  | [] => return none
  | t :: ts =>
    if t.1.isPunct "(" then closingFrom (place + 1) (depth + 1) ts
    else if t.1.isPunct ")" then
      if depth = 0 then throw .negativeDepth
      else if depth - 1 = 0 then return some place
      else closingFrom (place + 1) (depth - 1) ts
    else closingFrom (place + 1) depth ts

def closing (place : Nat) : Except Fault (Option Nat) := closingFrom place 0 (line.toks.drop place)

/-- The same, provided that there is a parenthesis at `place`. -/
def groupAt (place : Nat) : Except Fault (Option Nat) := do
  if (← line.tokenAt place).1.isPunct "(" then line.closing place else return none

/-- Whether a name and a colon stand in front of something, from `start` to the token before
`stop`. -/
def isNamed (start stop : Nat) : Except Fault Bool := do
  if 2 < stop - start then
    if (← line.tokenAt start).1.isIdent then return (← line.tokenAt (start + 1)).1.isPunct ":"
    else return false
  else return false

/-- The argument from `start` to the token before `stop`, unless it is empty. -/
def argument (start stop : Nat) : Except Fault (Option Argument) := do
  if stop ≤ start then return none
  else if ← line.isNamed start stop then
    return some ⟨some (← line.tokenAt start).1.text, ← line.textBetween (start + 2) stop⟩
  else return some ⟨none, ← line.textBetween start stop⟩

/-- The depth behind a token. The parenthesis that ends the list closes no group inside of it. -/
def depthBehind (t : Token) (isLast : Bool) (depth : Nat) : Nat :=
  if t.isPunct "(" || t.isPunct "[" then depth + 1
  else if (t.isPunct ")" || t.isPunct "]") && !isLast then depth - 1
  else depth

/-- The arguments that end at one of the next `count` places, from `place` on. The first of them
starts at `start`, and the parenthesis at `close` ends the last one. -/
def argumentsTo (close : Nat) : Nat → Nat → Nat → Nat → Except Fault (List Argument)
  | 0, _, _, _ => return []
  | count + 1, place, start, depth => do
    let t ← line.tokenAt place
    if t.1.isPunct "," && depthBehind t.1 (place == close) depth == 0 || place == close then
      let found ← line.argument start place
      return found.toList ++ (← argumentsTo close count (place + 1) (place + 1)
        (depthBehind t.1 (place == close) depth))
    else argumentsTo close count (place + 1) start (depthBehind t.1 (place == close) depth)

def equalsFrom : Nat → Nat → Except Fault (Option Nat)
  | 0, _ => return none
  | count + 1, place => do
    if (← line.tokenAt place).1.isPunct "=" then return some place
    else equalsFrom count (place + 1)

end Line

/-- Reads from a position on: a value and the position behind it, or nothing that fits. -/
def Reader (α : Type) : Type := Nat → Except Fault (Option (α × Nat))

namespace Reader

def andThen {α β : Type} (x : Reader α) (f : α → Reader β) : Reader β := fun position =>
  match x position with
  | .ok (some (a, next)) => f a next
  | .ok none => .ok none
  | .error fault => .error fault

instance : Monad Reader where
  pure a := fun position => .ok (some (a, position))
  bind := andThen

def refuse {α : Type} : Reader α := fun _ => .ok none

/-- A value that is found without moving. -/
def found {α : Type} (x : Except Fault α) : Reader α := fun position =>
  match x with
  | .ok a => .ok (some (a, position))
  | .error fault => .error fault

def position : Reader Nat := fun position => .ok (some (position, position))

def moveTo (place : Nat) : Reader Unit := fun _ => .ok (some ((), place))

/-- Where the first reader does not fit, the second one starts again at the same position. -/
def orElse {α : Type} (first second : Reader α) : Reader α := fun position =>
  match first position with
  | .ok none => second position
  | result => result

variable (line : Line)

def peek : Reader (Option Token) := fun position =>
  .ok (some (line.toks[position]?.map Prod.fst, position))

def eat (test : Token → Bool) : Reader Bool := do
  let here ← position
  if (← peek line).any test then
    moveTo (here + 1)
    return true
  else return false

def eatKeyword (word : String) : Reader Bool := eat line (·.isKeyword word)

def eatPunct (mark : String) : Reader Bool := eat line (·.isPunct mark)

def demand (ok : Reader Bool) : Reader Unit := do
  if ← ok then return () else refuse

def bump : Reader Token := do
  let here ← position
  match ← peek line with
  | some t =>
    moveTo (here + 1)
    return t
  | none => refuse

def ident : Reader String := do
  let here ← position
  match ← peek line with
  | some t =>
    if t.isIdent then
      moveTo (here + 1)
      return t.text
    else refuse
  | none => refuse

def atEnd : Reader Bool := do
  let here ← position
  return (← found (line.contentEnd here)) ≤ here

def finish {α : Type} (value : α) : Reader α := do
  if ← atEnd line then return value else refuse

def rest : Reader String := do
  let here ← position
  let text ← found (line.textBetween here (← found (line.contentEnd here)))
  moveTo line.size
  return text

def nonempty (text : Reader String) : Reader String := do
  let text ← text
  if text.isEmpty then refuse else return text

/-- The inside of a group that spans the rest of the line, or the rest itself. -/
def condition : Reader String := do
  let here ← position
  let stop ← found (line.contentEnd here)
  if stop ≤ here then refuse
  else
    match (← found (line.groupAt here)).filter fun close => close + 1 == stop with
    | some close =>
      let inside ← found (line.textBetween (here + 1) close)
      moveTo line.size
      nonempty (return inside)
    | none => nonempty (rest line)

def arguments : Reader (List Argument) := do
  let here ← position
  if (← peek line).any (·.isPunct "(") then
    match ← found (line.closing here) with
    | some close =>
      let args ← found (line.argumentsTo close (close - here) (here + 1) (here + 1) 0)
      moveTo (close + 1)
      return args
    | none => refuse
  else refuse

/-- Moves behind the next closing bracket, in at most so many rounds. -/
def skipBracket : Nat → Reader Unit
  | 0 => found (throw .endless)
  | rounds + 1 => do
    if ← eatPunct line "]" then return ()
    else
      let _ ← bump line
      skipBracket rounds

def hops : Nat → Reader (List Hop)
  | 0 => found (throw .endless)
  | rounds + 1 => do
    if ← eatPunct line "->" then
      let className ← ident line
      demand (eatPunct line "[")
      let relId ← ident line
      skipBracket line (line.size + 1)
      return ⟨className, relId⟩ :: (← hops rounds)
    else return []

def whereClause : Reader (Option String) := do
  if ← atEnd line then return none
  else
    demand (eatKeyword line "where")
    return some (← condition line)

def phrase : Reader Unit := do
  if ← eatPunct line "." then
    let t ← bump line
    if t.kind == .string || t.isIdent then return () else refuse
  else return ()

def across : Reader (String × Option String) := do
  demand (eatKeyword line "across")
  let relId ← ident line
  phrase line
  if ← eatKeyword line "using" then
    let link ← ident line
    finish line (relId, some link)
  else finish line (relId, none)

/-- The label of an event, with key letters if a colon stands behind the first name. -/
def eventLabel : Reader (Option String × String) := do
  let first ← ident line
  if ← eatPunct line ":" then return (some first, ← ident line) else return (none, first)

def eventSpec : Reader (Option String × String × List Argument) := do
  let (keyLetters, label) ← eventLabel line
  if (← peek line).any (·.isPunct "(") then return (keyLetters, label, ← arguments line)
  else return (keyLetters, label, [])

def elseBranch : Reader Statement := do
  if ← eatKeyword line "if" then return .elseIf (← condition line)
  else finish line .elseBegin

def endOfBlock : Reader Statement := do
  if ← eatKeyword line "if" then finish line .ifEnd
  else if ← eatKeyword line "for" then finish line .forEnd
  else if ← eatKeyword line "while" then finish line .whileEnd
  else refuse

def forEachIn : Reader Statement := do
  demand (eatKeyword line "each")
  let var ← ident line
  demand (eatKeyword line "in")
  return .forEach var (← nonempty (rest line))

def cardinality : Reader Cardinality := do
  if ← eatKeyword line "any" then return .any
  else if ← eatKeyword line "one" then return .one
  else if ← eatKeyword line "many" then return .many
  else refuse

def selectFrom : Reader Statement := do
  let card ← cardinality line
  let var ← ident line
  if ← eatKeyword line "from" then
    demand (eatKeyword line "instances")
    demand (eatKeyword line "of")
    let classRef ← ident line
    return .selectInstances card var classRef (← whereClause line)
  else
    demand (eatKeyword line "related")
    demand (eatKeyword line "by")
    let source ← ident line
    let steps ← hops line (line.size + 1)
    if steps.isEmpty then refuse
    else return .selectRelated card var source steps (← whereClause line)

def create : Reader Statement := do
  if ← eatKeyword line "object" then
    demand (eatKeyword line "instance")
    let var ← ident line
    demand (eatKeyword line "of")
    let classRef ← ident line
    finish line (.createObject var classRef)
  else
    demand (eatKeyword line "event")
    demand (eatKeyword line "instance")
    let var ← ident line
    demand (eatKeyword line "of")
    let (keyLetters, label, args) ← eventSpec line
    demand (eatKeyword line "to")
    return .createEvent var keyLetters label args (← nonempty (rest line))

def delete : Reader Statement := do
  demand (eatKeyword line "object")
  demand (eatKeyword line "instance")
  let var ← ident line
  finish line (.deleteObject var)

def relate : Reader Statement := do
  let source ← ident line
  demand (eatKeyword line "to")
  let target ← ident line
  let (relId, link) ← across line
  return .relate source target relId link

def unrelate : Reader Statement := do
  let source ← ident line
  demand (eatKeyword line "from")
  let target ← ident line
  if (← peek line).any (·.isPunct "->") then
    match ← hops line (line.size + 1) with
    | [step] =>
      match ← across line with
      | (relId, none) => return .unrelateNavigated source target step relId
      | (_, some _) => refuse
    | _ => refuse
  else
    let (relId, link) ← across line
    return .unrelate source target relId link

def send : Reader Statement := do
  let message ← ident line
  let args ← arguments line
  demand (eatKeyword line "to")
  return .send message args (← nonempty (rest line))

def generate : Reader Statement := do
  let here ← position
  if (line.toks[here + 1]?.map Prod.fst).any fun t =>
      t.isPunct ":" || t.isPunct "(" || t.isKeyword "to" then
    let (keyLetters, event, args) ← eventSpec line
    demand (eatKeyword line "to")
    return .generate keyLetters event args (← nonempty (rest line))
  else
    let var ← ident line
    finish line (.generateInstance var)

def call : Reader Statement := do
  let head ← ident line
  if ← eatPunct line "::" then
    let operation ← ident line
    let args ← arguments line
    finish line (.bridgeCall head operation args)
  else if ← eatPunct line "." then
    let method ← ident line
    let args ← arguments line
    finish line (.methodCall head method args)
  else if Grammar.reserved.any (sameUpToAsciiCase head) then refuse
  else
    let args ← arguments line
    finish line (.functionCall head args)

/-- A name, or a name, a point and a name. -/
def assignTarget : List Token → Option AssignTarget
  | [name] => if name.isIdent then some (.variable name.text) else none
  | [object, dot, name] =>
    if object.isIdent && dot.isPunct "." && name.isIdent then
      some (.attribute object.text name.text)
    else none
  | _ => none

def assignment : Reader Statement := do
  let here ← position
  match ← found (line.equalsFrom (line.size - here) here) with
  | some sign =>
    match assignTarget ((← found (line.tokensBetween here sign)).map Prod.fst) with
    | some target =>
      moveTo (sign + 1)
      return .assign target (← nonempty (rest line))
    | none => refuse
  | none => refuse

def callOrAssignment : Reader Statement := do
  if ← eatPunct line "::" then
    let name ← ident line
    let args ← arguments line
    finish line (.functionCall name args)
  else orElse (call line) (assignment line)

/-- What the rest of the line has to be behind a word that announces its form. -/
def announced (word : String) : Option (Reader Statement) :=
  match word with
  | "if" => some (.ifBegin <$> condition line)
  | "elif" => some (.elseIf <$> condition line)
  | "while" => some (.whileBegin <$> condition line)
  | "else" => some (elseBranch line)
  | "end" => some (endOfBlock line)
  | "for" => some (forEachIn line)
  | "break" => some (finish line .breakLoop)
  | "continue" => some (finish line .continueLoop)
  | "return" => some do
    let value ← rest line
    return .returnValue (if value.isEmpty then none else some value)
  | "select" => some (selectFrom line)
  | "create" => some (create line)
  | "delete" => some (delete line)
  | "relate" => some (relate line)
  | "unrelate" => some (unrelate line)
  | "send" => some (send line)
  | "generate" => some (generate line)
  | "assign" => some (assignment line)
  | _ => none

def statement : Reader Statement := do
  let here ← position
  match ← peek line with
  | none => refuse
  | some first =>
    match if first.isIdent then announced line (asciiLower first.text) else none with
    | some form =>
      moveTo (here + 1)
      form
    | none => callOrAssignment line

end Reader

def readLine (line : String) : Except Fault Statement := do
  let chars := trim line.toList
  if isCommentLine chars then return .comment (commentText chars)
  else
    let found ← Reader.statement (← Line.ofChars chars) 0
    return (found.map Prod.fst).getD (.unrecognized (String.ofList chars))

end ExecutableUml.Action.Places
