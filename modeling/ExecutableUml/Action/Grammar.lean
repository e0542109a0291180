import ExecutableUml.Action.Token
import ExecutableUml.Action.Statement

/-! The grammar of statements. Each line is a statement of its own; trailing semicolons are ignored,
keywords may be written in any case, and the longest form that fits the whole line is taken. -/

namespace ExecutableUml.Action

open Text

namespace Grammar

def ident : List Word → Option (String × List Word)
  | [] => none
  | w :: ws => if w.isIdent then some (w.text, ws) else none

def keyword (word : String) : List Word → Option (List Word)
  | [] => none
  | w :: ws => if w.isKeyword word then some ws else none

def punct (mark : String) : List Word → Option (List Word)
  | [] => none
  | w :: ws => if w.isPunct mark then some ws else none

/-- The words without the semicolons at their end. -/
def content (ws : List Word) : List Word := (ws.reverse.dropWhile (·.isPunct ";")).reverse

def atEnd (ws : List Word) : Bool := (content ws).isEmpty

def finish {α : Type} (value : α) (ws : List Word) : Option α :=
  if atEnd ws then some value else none

/-- The text of the remaining words, unless there is none. -/
def rest (ws : List Word) : Option String :=
  if atEnd ws then none else some (Word.join (content ws))

/-- The words up to the parenthesis that closes `depth` open groups and one more, and the words
behind it. -/
def closeGroup (depth : Nat) : List Word → Option (List Word × List Word)
  | [] => none
  | w :: ws =>
    if w.isPunct ")" then
      match depth with
      | 0 => some ([], ws)
      | d + 1 => (closeGroup d ws).map fun (inside, after) => (w :: inside, after)
    else
      let depth := if w.isPunct "(" then depth + 1 else depth
      (closeGroup depth ws).map fun (inside, after) => (w :: inside, after)

/-- A condition is the inside of a group that spans the rest of the line, or the rest itself. -/
def condition (ws : List Word) : Option String :=
  match content ws with
  | [] => none
  | w :: tail =>
    match if w.isPunct "(" then closeGroup 0 tail else none with
    | some (inside, []) => if inside.isEmpty then none else some (Word.join inside)
    | _ => some (Word.join (w :: tail))

/-- Splits at commas outside of parentheses and brackets. -/
def splitCommas (depth : Nat) : List Word → List (List Word)
  | [] => [[]]
  | w :: ws =>
    if w.isPunct "," && depth == 0 then [] :: splitCommas depth ws
    else
      let depth :=
        if w.isPunct "(" || w.isPunct "[" then depth + 1
        else if w.isPunct ")" || w.isPunct "]" then depth - 1
        else depth
      match splitCommas depth ws with
      | [] => [[w]]
      | part :: parts => (w :: part) :: parts

def argument : List Word → Option Argument
  | [] => none
  | w :: colon :: v :: vs =>
    if w.isIdent && colon.isPunct ":" then some ⟨some w.text, Word.join (v :: vs)⟩
    else some ⟨none, Word.join (w :: colon :: v :: vs)⟩
  | ws => some ⟨none, Word.join ws⟩

/-- A parenthesized list of arguments; empty arguments are dropped. -/
def arguments (ws : List Word) : Option (List Argument × List Word) := do
  let (inside, after) ← closeGroup 0 (← punct "(" ws)
  return ((splitCommas 0 inside).filterMap argument, after)

def afterBracket : List Word → Option (List Word)
  | [] => none
  | w :: ws => if w.isPunct "]" then some ws else afterBracket ws

theorem afterBracket_length {ws after : List Word} (h : afterBracket ws = some after) :
    after.length < ws.length := by
  induction ws with
  | nil => simp [afterBracket] at h
  | cons w ws ih =>
    rw [afterBracket] at h
    split at h
    · simp_all
    · have := ih h
      simp only [List.length_cons]
      omega

/-- One step `->Class[Rn]`; whatever follows the relationship inside the brackets is skipped. -/
def hop : List Word → Option (Hop × List Word)
  | arrow :: cls :: bracket :: rel :: ws =>
    if arrow.isPunct "->" && cls.isIdent && bracket.isPunct "[" && rel.isIdent then
      (afterBracket ws).map fun after => (⟨cls.text, rel.text⟩, after)
    else none
  | _ => none

theorem hop_length {ws after : List Word} {h : Hop} (e : hop ws = some (h, after)) :
    after.length < ws.length := by
  unfold hop at e
  split at e
  · split at e
    · obtain ⟨after', h1, h2⟩ := Option.map_eq_some_iff.1 e
      have := afterBracket_length h1
      simp only [Prod.mk.injEq] at h2
      obtain ⟨-, rfl⟩ := h2
      simp only [List.length_cons]
      omega
    · simp at e
  · simp at e

/-- The steps of a navigation, as many as there are. -/
def hops (ws : List Word) : Option (List Hop × List Word) :=
  match punct "->" ws with
  | none => some ([], ws)
  | some _ =>
    match _e : hop ws with
    | none => none
    | some (h, after) => (hops after).map fun (hs, after) => (h :: hs, after)
termination_by ws.length
decreasing_by exact hop_length (by assumption)

/-- An optional condition up to the end of the line. -/
def whereClause (ws : List Word) : Option (Option String) :=
  if atEnd ws then some none
  else do
    let c ← condition (← keyword "where" ws)
    return some c

/-- `across Rn`, an optional phrase, an optional link instance and nothing more. -/
def across (ws : List Word) : Option (String × Option String) := do
  let (relId, ws) ← ident (← keyword "across" ws)
  let ws ← match punct "." ws with
    | none => some ws
    | some [] => none
    | some (w :: ws) => if w.token.kind == .string || w.isIdent then some ws else none
  match keyword "using" ws with
  | none => finish (relId, none) ws
  | some ws =>
    let (link, ws) ← ident ws
    finish (relId, some link) ws

/-- `[KL:]Label[(arguments)]` -/
def eventSpec (ws : List Word) : Option (Option String × String × List Argument × List Word) := do
  let (first, ws) ← ident ws
  let (keyLetters, label, ws) ← match punct ":" ws with
    | none => some (none, first, ws)
    | some ws => (ident ws).map fun (label, ws) => (some first, label, ws)
  match punct "(" ws with
  | none => return (keyLetters, label, [], ws)
  | some _ =>
    let (args, ws) ← arguments ws
    return (keyLetters, label, args, ws)

def elseBranch (ws : List Word) : Option Statement :=
  match keyword "if" ws with
  | some ws => (condition ws).map .elseIf
  | none => finish .elseBegin ws

def endOfBlock (ws : List Word) : Option Statement :=
  match keyword "if" ws, keyword "for" ws, keyword "while" ws with
  | some ws, _, _ => finish .ifEnd ws
  | _, some ws, _ => finish .forEnd ws
  | _, _, some ws => finish .whileEnd ws
  | none, none, none => none

def forEachIn (ws : List Word) : Option Statement := do
  let (var, ws) ← ident (← keyword "each" ws)
  let collection ← rest (← keyword "in" ws)
  return .forEach var collection

def cardinality (ws : List Word) : Option (Cardinality × List Word) :=
  match keyword "any" ws, keyword "one" ws, keyword "many" ws with
  | some ws, _, _ => some (.any, ws)
  | _, some ws, _ => some (.one, ws)
  | _, _, some ws => some (.many, ws)
  | none, none, none => none

def selectFrom (ws : List Word) : Option Statement := do
  let (card, ws) ← cardinality ws
  let (var, ws) ← ident ws
  match keyword "from" ws with
  | some ws =>
    let (classRef, ws) ← ident (← keyword "of" (← keyword "instances" ws))
    return .selectInstances card var classRef (← whereClause ws)
  | none =>
    let (source, ws) ← ident (← keyword "by" (← keyword "related" ws))
    let (steps, ws) ← hops ws
    if steps.isEmpty then none else return .selectRelated card var source steps (← whereClause ws)

def create (ws : List Word) : Option Statement :=
  match keyword "object" ws with
  | some ws => do
    let (var, ws) ← ident (← keyword "instance" ws)
    let (classRef, ws) ← ident (← keyword "of" ws)
    finish (.createObject var classRef) ws
  | none => do
    let (var, ws) ← ident (← keyword "instance" (← keyword "event" ws))
    let (keyLetters, label, args, ws) ← eventSpec (← keyword "of" ws)
    return .createEvent var keyLetters label args (← rest (← keyword "to" ws))

def delete (ws : List Word) : Option Statement := do
  let (var, ws) ← ident (← keyword "instance" (← keyword "object" ws))
  finish (.deleteObject var) ws

def relate (ws : List Word) : Option Statement := do
  let (source, ws) ← ident ws
  let (target, ws) ← ident (← keyword "to" ws)
  let (relId, link) ← across ws
  return .relate source target relId link

def unrelate (ws : List Word) : Option Statement := do
  let (source, ws) ← ident ws
  let (target, ws) ← ident (← keyword "from" ws)
  match punct "->" ws with
  | none =>
    let (relId, link) ← across ws
    return .unrelate source target relId link
  | some _ =>
    match ← hops ws with
    | ([h], ws) =>
      match ← across ws with
      | (relId, none) => return .unrelateNavigated source target h relId
      | (_, some _) => none
    | _ => none

def send (ws : List Word) : Option Statement := do
  let (message, ws) ← ident ws
  let (args, ws) ← arguments ws
  return .send message args (← rest (← keyword "to" ws))

/-- The word after the first one tells an event from a variable that holds one. -/
def generate (ws : List Word) : Option Statement :=
  if ws.tail.head?.any fun w => w.isPunct ":" || w.isPunct "(" || w.isKeyword "to" then do
    let (keyLetters, event, args, ws) ← eventSpec ws
    return .generate keyLetters event args (← rest (← keyword "to" ws))
  else do
    let (var, ws) ← ident ws
    finish (.generateInstance var) ws

/-- Words that never name a function in a call. -/
def reserved : List String :=
  ["print", "select", "create", "delete", "relate", "unrelate", "generate", "if", "while", "for",
   "return", "send", "elif", "else", "end", "assign", "break", "continue"]

def call (ws : List Word) : Option Statement := do
  let (head, ws) ← ident ws
  match punct "::" ws, punct "." ws with
  | some ws, _ =>
    let (operation, ws) ← ident ws
    let (args, ws) ← arguments ws
    finish (.bridgeCall head operation args) ws
  | none, some ws =>
    let (method, ws) ← ident ws
    let (args, ws) ← arguments ws
    finish (.methodCall head method args) ws
  | none, none =>
    if reserved.any (sameUpToAsciiCase head) then none
    else
      let (args, ws) ← arguments ws
      finish (.functionCall head args) ws

def assignTarget : List Word → Option AssignTarget
  | [name] => if name.isIdent then some (.variable name.text) else none
  | [object, dot, name] =>
    if object.isIdent && dot.isPunct "." && name.isIdent then
      some (.attribute object.text name.text)
    else none
  | _ => none

/-- The first equals sign divides target and value. -/
def assignment (ws : List Word) : Option Statement :=
  match ws.dropWhile fun w => !w.isPunct "=" with
  | [] => none
  | _ :: after => do
    let target ← assignTarget (ws.takeWhile fun w => !w.isPunct "=")
    return .assign target (← rest after)

def callOrAssignment (ws : List Word) : Option Statement :=
  match punct "::" ws with
  | some ws => do
    let (name, ws) ← ident ws
    let (args, ws) ← arguments ws
    finish (.functionCall name args) ws
  | none => call ws <|> assignment ws

/-- The form that the first word announces; no other form is tried for these words. -/
def announced (word : String) (ws : List Word) : Option (Option Statement) :=
  match word with
  | "if" => some ((condition ws).map .ifBegin)
  | "elif" => some ((condition ws).map .elseIf)
  | "while" => some ((condition ws).map .whileBegin)
  | "else" => some (elseBranch ws)
  | "end" => some (endOfBlock ws)
  | "for" => some (forEachIn ws)
  | "break" => some (finish .breakLoop ws)
  | "continue" => some (finish .continueLoop ws)
  | "return" => some (some (.returnValue (rest ws)))
  | "select" => some (selectFrom ws)
  | "create" => some (create ws)
  | "delete" => some (delete ws)
  | "relate" => some (relate ws)
  | "unrelate" => some (unrelate ws)
  | "send" => some (send ws)
  | "generate" => some (generate ws)
  | "assign" => some (assignment ws)
  | _ => none

def statement : List Word → Option Statement
  | [] => none
  | w :: ws =>
    match if w.isIdent then announced (asciiLower w.text) ws else none with
    | some result => result
    | none => callOrAssignment (w :: ws)

end Grammar

def dropRepeated (part : List Char) : Nat → List Char → List Char
  | 0, s => s
  | n + 1, s => match stripEnd part s with
    | some before => dropRepeated part n before
    | none => s

/-- The text of a comment line without its marks. -/
def commentText (line : List Char) : String :=
  let line := trim line
  let marks := ["//", "/*", "*/", "#", "*"]
  let body := (marks.findSome? fun m => stripStart m.toList line).getD line
  let body := body.dropWhile (· = '/')
  String.ofList (trim (dropRepeated ['*', '/'] body.length body))

def isCommentLine (line : List Char) : Bool :=
  ["//", "#", "/*", "*/"].any fun m => startsWith m.toList line

/-- One line as a statement. -/
def parseLine (line : String) : Statement :=
  let line := trim line.toList
  if isCommentLine line then .comment (commentText line)
  else (Grammar.statement (words (tokens line))).getD (.unrecognized (String.ofList line))

/-- A line of a body that is not blank: its number, counted from one, its text and its statement. -/
structure BodyLine where
  number : Nat
  text : String
  statement : Statement
deriving DecidableEq, Repr

/-- A line that opens a block comment turns the following lines into comments, up to the line that
closes it. -/
def bodyLines (number : Nat) (inComment : Bool) : List (List Char) → List BodyLine
  | [] => []
  | raw :: rest =>
    let line := trim raw
    if line.isEmpty then bodyLines (number + 1) inComment rest
    else
      let closes := occursIn ['*', '/'] line
      let text := String.ofList line
      if inComment then
        ⟨number, text, .comment (commentText line)⟩ :: bodyLines (number + 1) (!closes) rest
      else
        ⟨number, text, parseLine text⟩ ::
          bodyLines (number + 1) (startsWith ['/', '*'] line && !closes) rest

def parseBody (body : String) : List BodyLine :=
  bodyLines 1 false (splitAtChar '\n' body.toList)

end ExecutableUml.Action
