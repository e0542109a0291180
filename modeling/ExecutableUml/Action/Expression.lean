import ExecutableUml.Action.Token

/-! Expressions as a sequence of pieces. A piece is a construct that means something of its own (a
duration, a clock reading, an emptiness test, a call, a member access, a name); every other token
stands as it is. Calls and tests hold the pieces of their operands, so nesting is a tree. -/

namespace ExecutableUml.Action

open Text

inductive ClockReading where
  | timestamp
  | date
deriving DecidableEq, Repr

inductive EmptinessTest where
  | notEmpty
  | empty
  | cardinality
deriving DecidableEq, Repr

/-- What a call inside an expression calls: an operation of an external entity, or a function. -/
inductive Callee where
  | bridge (entity operation : String)
  | function (name : String)
deriving DecidableEq, Repr

/-- One `.field` of a member access, with whether an opening parenthesis follows it. -/
structure Selector where
  field : String
  isCall : Bool
deriving DecidableEq, Repr

mutual

inductive Piece where
  | copy (token : Token)
  | name (text : String)
  | duration (amount : String) (seconds : Nat)
  | clock (reading : ClockReading)
  | test (kind : EmptinessTest) (operand : List Piece)
  | call (callee : Callee) (args : List Actual)
  | member (head : String) (selector : Selector) (further : List Selector)

/-- An argument of a call, named or not. -/
inductive Actual where
  | mk (name : Option String) (value : List Piece)

end

/-- Units of time with their length in seconds. -/
def durationUnits : List (String × Nat) :=
  [("hour", 3600), ("hours", 3600), ("minute", 60), ("minutes", 60), ("sec", 1), ("secs", 1),
   ("second", 1), ("seconds", 1), ("day", 86400), ("days", 86400)]

def clockReading (t : Token) : Option ClockReading :=
  match asciiLower t.text with
  | "currenttimestamp" => some .timestamp
  | "currenttime" => some .timestamp
  | "currentdate" => some .date
  | _ => none

def emptinessTest (t : Token) : Option EmptinessTest :=
  match asciiLower t.text with
  | "not_empty" => some .notEmpty
  | "empty" => some .empty
  | "cardinality" => some .cardinality
  | _ => none

/-- A unit of time, and what follows it. -/
def timeUnit : List Token → Option (Nat × List Token)
  | u :: after =>
    if u.isIdent then (durationUnits.lookup (asciiLower u.text)).map (·, after) else none
  | [] => none

/-- The unit that follows a number, over at most one run of blanks. -/
def durationUnit : List Token → Option (Nat × List Token)
  | b :: rest => if b.isBlank then timeUnit rest else timeUnit (b :: rest)
  | [] => none

/-- An empty pair of parentheses right here is dropped. -/
def dropEmptyCall : List Token → List Token
  | o :: c :: after => if o.isPunct "(" && c.isPunct ")" then after else o :: c :: after
  | ts => ts

/-- The tokens up to the parenthesis that closes the group, and those after it. -/
def closeParen (depth : Nat) : List Token → Option (List Token × List Token)
  | [] => none
  | t :: ts =>
    if t.isPunct ")" && depth == 0 then some ([], ts)
    else
      let depth := if t.isPunct "(" then depth + 1 else if t.isPunct ")" then depth - 1 else depth
      (closeParen depth ts).map fun (inside, after) => (t :: inside, after)

/-- `(inside)` and what follows. -/
def parenthesized : List Token → Option (List Token × List Token)
  | o :: ts => if o.isPunct "(" then closeParen 0 ts else none
  | [] => none

/-- The longest run of `.field` and what follows. -/
def selectors : List Token → List Selector × List Token
  | dot :: field :: after =>
    if dot.isPunct "." && field.isIdent then
      let (more, rest) := selectors after
      (⟨field.text, after.head?.any (·.isPunct "(")⟩ :: more, rest)
    else ([], dot :: field :: after)
  | ts => ([], ts)

/-- The tokens of `x` or `x.y.z` after blanks, and what follows. -/
def dottedRun : List Token → List Token × List Token
  | dot :: field :: after =>
    if dot.isPunct "." && field.isIdent then
      let (more, rest) := dottedRun after
      (dot :: field :: more, rest)
    else ([], dot :: field :: after)
  | ts => ([], ts)

def operand : List Token → Option (List Token × List Token)
  | b :: x :: after =>
    if b.isBlank && x.isIdent then some (x :: (dottedRun after).1, (dottedRun after).2) else none
  | _ => none

/-- The parts between the commas outside of all brackets. -/
def splitArguments (depth : Nat) : List Token → List (List Token)
  | [] => [[]]
  | t :: ts =>
    if t.isPunct "," && depth == 0 then [] :: splitArguments depth ts
    else
      let opens := t.isPunct "(" || t.isPunct "["
      let closes := t.isPunct ")" || t.isPunct "]"
      let depth := if opens then depth + 1 else if closes then depth - 1 else depth
      match splitArguments depth ts with
      | [] => [[t]]
      | part :: parts => (t :: part) :: parts

def dropTrailing (p : Token → Bool) (ts : List Token) : List Token :=
  (ts.reverse.dropWhile p).reverse

/-- The last token is a closing parenthesis and there are more of them than opening ones. -/
def endsUnbalanced (ts : List Token) : Bool :=
  ts.getLast?.any (·.isPunct ")") && ts.countP (·.isPunct "(") < ts.countP (·.isPunct ")")

/-- Semicolons at the end are dropped with the blanks around them. Behind them, a closing
parenthesis that has no opening one goes too. -/
def dropTerminators (ts : List Token) : List Token :=
  let kept := dropTrailing (fun t => t.isBlank || t.isPunct ";") ts
  let ended := (ts.drop kept.length).any (·.isPunct ";")
  if ended && endsUnbalanced kept then dropTrailing Token.isBlank kept.dropLast else kept

/-- The tokens of a fragment that count: no blanks at the edges, no terminators. -/
def fragment (ts : List Token) : List Token := dropTerminators (ts.dropWhile Token.isBlank)

/-- A part of an argument list. `name: value` names the argument; a blank part is none. -/
def argumentPart (part : List Token) : Option (Option String × List Token) :=
  match significant part with
  | [] => none
  | name :: colon :: _ :: _ =>
    if name.isIdent && colon.isPunct ":" then
      some (some name.text, fragment ((part.dropWhile fun t => !t.isPunct ":").drop 1))
    else some (none, fragment part)
  | _ => some (none, fragment part)

def argumentParts (inside : List Token) : List (Option String × List Token) :=
  (splitArguments 0 inside).filterMap argumentPart

/-- The first construct of a sequence of tokens, its operands not yet taken apart. -/
inductive Construct where
  | copy (token : Token)
  | name (text : String)
  | duration (amount : String) (seconds : Nat)
  | clock (reading : ClockReading)
  | test (kind : EmptinessTest) (operand : List Token)
  | call (callee : Callee) (args : List (Option String × List Token))
  | member (head : String) (selector : Selector) (further : List Selector)

/-- `entity::operation(…)`, read behind the entity. -/
def bridgeCall (entity : Token) : List Token → Option (Construct × List Token)
  | colons :: op :: after => do
    guard (colons.isPunct "::" && op.isIdent)
    let (inside, rest) ← parenthesized after
    return (.call (.bridge entity.text op.text) (argumentParts inside), rest)
  | _ => none

/-- `::name(…)`, read behind the colons. -/
def functionCall : List Token → Option (Construct × List Token)
  | name :: after => do
    guard name.isIdent
    let (inside, rest) ← parenthesized after
    return (.call (.function name.text) (argumentParts inside), rest)
  | [] => none

/-- What begins with an identifier, by the first rule that fits: a clock reading, an emptiness
test, a bridge call, a member access, a name. -/
def identConstruct (t : Token) (ts : List Token) : Construct × List Token :=
  match clockReading t with
  | some reading => (.clock reading, dropEmptyCall ts)
  | none =>
    match emptinessTest t, operand ts with
    | some kind, some (inner, rest) => (.test kind inner, rest)
    | _, _ =>
      match bridgeCall t ts with
      | some found => found
      | none =>
        match selectors ts with
        | (first :: further, rest) => (.member t.text first further, rest)
        | ([], _) => (.name t.text, ts)

def construct (t : Token) (ts : List Token) : Construct × List Token :=
  match t.kind with
  | .number =>
    match durationUnit ts with
    | some (seconds, rest) => (.duration t.text seconds, rest)
    | none => (.copy t, ts)
  | .ident => identConstruct t ts
  | .punct => if t.isPunct "::" then (functionCall ts).getD (.copy t, ts) else (.copy t, ts)
  | .string => (.copy t, ts)
  | .blank => (.copy t, ts)

/-- The token sequences inside a construct. -/
def Construct.inner : Construct → List (List Token)
  | .test _ operand => [operand]
  | .call _ args => args.map Prod.snd
  | _ => []

theorem dropTrailing_length (p : Token → Bool) (ts : List Token) :
    (dropTrailing p ts).length ≤ ts.length := by
  simpa [dropTrailing] using (List.dropWhile_sublist p (l := ts.reverse)).length_le

theorem dropTerminators_length (ts : List Token) : (dropTerminators ts).length ≤ ts.length := by
  have h := dropTrailing_length (fun t => t.isBlank || t.isPunct ";") ts
  simp only [dropTerminators]
  split
  · refine Nat.le_trans (dropTrailing_length _ _) ?_
    rw [List.length_dropLast]
    omega
  · exact h

theorem fragment_length (ts : List Token) : (fragment ts).length ≤ ts.length :=
  Nat.le_trans (dropTerminators_length _) (List.dropWhile_sublist _).length_le

theorem argumentPart_length {part value : List Token} {name : Option String}
    (h : argumentPart part = some (name, value)) : value.length ≤ part.length := by
  unfold argumentPart at h
  split at h
  · cases h
  · split at h
    · cases h
      refine Nat.le_trans (fragment_length _) ?_
      exact Nat.le_trans (List.drop_sublist 1 _).length_le (List.dropWhile_sublist _).length_le
    · cases h
      exact fragment_length part
  · cases h
    exact fragment_length part

theorem splitArguments_length {depth : Nat} {ts part : List Token}
    (h : part ∈ splitArguments depth ts) : part.length ≤ ts.length := by
  induction ts generalizing depth part with
  | nil => simp [splitArguments] at h; simp [h]
  | cons t ts ih =>
    rw [splitArguments] at h
    split at h
    · rcases List.mem_cons.1 h with rfl | h
      · simp
      · have := ih h
        simp only [List.length_cons]
        omega
    · simp only at h
      split at h
      · simp only [List.mem_singleton] at h
        simp [h]
      · rename_i first more e
        rcases List.mem_cons.1 h with rfl | h
        · have := ih (e ▸ List.mem_cons_self)
          simp only [List.length_cons]
          omega
        · have := ih (e ▸ List.mem_cons_of_mem _ h)
          simp only [List.length_cons]
          omega

theorem argumentParts_length {inside value : List Token}
    (h : value ∈ (argumentParts inside).map Prod.snd) : value.length ≤ inside.length := by
  simp only [argumentParts, List.mem_map, List.mem_filterMap] at h
  obtain ⟨⟨name, _⟩, ⟨part, hp, ha⟩, rfl⟩ := h
  exact Nat.le_trans (argumentPart_length ha) (splitArguments_length hp)

theorem closeParen_length {depth : Nat} {ts inside after : List Token}
    (h : closeParen depth ts = some (inside, after)) :
    inside.length + after.length < ts.length := by
  induction ts generalizing depth inside with
  | nil => simp [closeParen] at h
  | cons t ts ih =>
    rw [closeParen] at h
    split at h
    · cases h; simp
    · simp only [Option.map_eq_some_iff, Prod.exists, Prod.mk.injEq] at h
      obtain ⟨i, a, e, rfl, rfl⟩ := h
      have := ih e
      simp only [List.length_cons]
      omega

theorem parenthesized_length {ts inside after : List Token}
    (h : parenthesized ts = some (inside, after)) : inside.length + after.length < ts.length := by
  unfold parenthesized at h
  split at h
  · split at h
    · have := closeParen_length h
      simp only [List.length_cons]
      omega
    · cases h
  · cases h

theorem selectors_length (ts : List Token) : (selectors ts).2.length ≤ ts.length := by
  fun_induction selectors ts with
  | case1 dot field after _ more rest e ih =>
    simp only [e, List.length_cons] at *
    omega
  | case2 => simp
  | case3 => simp

theorem dottedRun_length (ts : List Token) :
    (dottedRun ts).1.length + (dottedRun ts).2.length = ts.length := by
  fun_induction dottedRun ts with
  | case1 dot field after _ more rest e ih =>
    simp only [e, List.length_cons] at *
    omega
  | case2 => simp
  | case3 => simp

theorem operand_length {ts inner rest : List Token} (h : operand ts = some (inner, rest)) :
    inner.length + rest.length ≤ ts.length := by
  unfold operand at h
  split at h
  · rename_i b x after
    split at h
    · cases h
      have := dottedRun_length after
      simp only [List.length_cons]
      omega
    · cases h
  · cases h

theorem dropEmptyCall_length (ts : List Token) : (dropEmptyCall ts).length ≤ ts.length := by
  unfold dropEmptyCall
  split
  · split <;> simp only [List.length_cons] <;> omega
  · simp

theorem timeUnit_length {ts rest : List Token} {n : Nat} (h : timeUnit ts = some (n, rest)) :
    rest.length ≤ ts.length := by
  unfold timeUnit at h
  split at h
  · split at h
    · simp only [Option.map_eq_some_iff, Prod.mk.injEq] at h
      obtain ⟨_, _, _, rfl⟩ := h
      simp
    · cases h
  · cases h

theorem durationUnit_length {ts rest : List Token} {n : Nat}
    (h : durationUnit ts = some (n, rest)) : rest.length ≤ ts.length := by
  unfold durationUnit at h
  split at h
  · split at h
    · exact Nat.le_trans (timeUnit_length h) (by simp)
    · exact timeUnit_length h
  · cases h

/-- Nothing inside the construct, nor what follows it, is longer than `ts`. -/
def Construct.Fits (c : Construct × List Token) (ts : List Token) : Prop :=
  c.2.length ≤ ts.length ∧ ∀ inner ∈ c.1.inner, inner.length ≤ ts.length

theorem bridgeCall_fits {entity : Token} {ts : List Token} {c : Construct × List Token}
    (h : bridgeCall entity ts = some c) : Construct.Fits c ts := by
  unfold bridgeCall at h
  split at h
  · rename_i colons op after
    obtain ⟨_, _, h⟩ := Option.bind_eq_some_iff.1 h
    obtain ⟨⟨inside, rest⟩, hp, h⟩ := Option.bind_eq_some_iff.1 h
    cases h
    have hl := parenthesized_length hp
    refine ⟨?_, fun inner hi => Nat.le_trans (argumentParts_length hi) ?_⟩ <;>
      simp only [List.length_cons] <;> omega
  · cases h

theorem functionCall_fits {ts : List Token} {c : Construct × List Token}
    (h : functionCall ts = some c) : Construct.Fits c ts := by
  unfold functionCall at h
  split at h
  · rename_i name after
    obtain ⟨_, _, h⟩ := Option.bind_eq_some_iff.1 h
    obtain ⟨⟨inside, rest⟩, hp, h⟩ := Option.bind_eq_some_iff.1 h
    cases h
    have hl := parenthesized_length hp
    refine ⟨?_, fun inner hi => Nat.le_trans (argumentParts_length hi) ?_⟩ <;>
      simp only [List.length_cons] <;> omega
  · cases h

theorem identConstruct_fits (t : Token) (ts : List Token) :
    Construct.Fits (identConstruct t ts) ts := by
  unfold identConstruct
  split
  · exact ⟨dropEmptyCall_length ts, by simp [Construct.inner]⟩
  · split
    · rename_i ho
      have := operand_length ho
      exact ⟨by simp only; omega, by simp only [Construct.inner, List.forall_mem_singleton]; omega⟩
    · split
      · exact bridgeCall_fits (by assumption)
      · have := selectors_length ts
        split
        · rename_i e
          exact ⟨by simpa [e] using this, by simp [Construct.inner]⟩
        · exact ⟨by simp, by simp [Construct.inner]⟩

theorem construct_fits (t : Token) (ts : List Token) : Construct.Fits (construct t ts) ts := by
  have copied : Construct.Fits (.copy t, ts) ts := ⟨by simp, by simp [Construct.inner]⟩
  unfold construct
  split
  · split
    · exact ⟨durationUnit_length (by assumption), by simp [Construct.inner]⟩
    · exact copied
  · exact identConstruct_fits t ts
  · split
    · cases h : functionCall ts with
      | none => exact copied
      | some c => exact functionCall_fits h
    · exact copied
  · exact copied
  · exact copied

def pieces : List Token → List Piece
  | [] => []
  | t :: ts =>
    have fits := construct_fits t ts
    let piece : Piece :=
      match h : (construct t ts).1 with
      | .copy token => .copy token
      | .name text => .name text
      | .duration amount seconds => .duration amount seconds
      | .clock reading => .clock reading
      | .test kind operand =>
        have : operand.length ≤ ts.length := fits.2 _ (by simp [h, Construct.inner])
        .test kind (pieces operand)
      | .call callee args =>
        .call callee (args.attach.map fun ⟨arg, ha⟩ =>
          have : arg.2.length ≤ ts.length :=
            fits.2 _ (by rw [h]; exact List.mem_map_of_mem ha)
          .mk arg.1 (pieces arg.2))
      | .member head selector further => .member head selector further
    have : (construct t ts).2.length ≤ ts.length := fits.1
    piece :: pieces (construct t ts).2
termination_by ts => ts.length
decreasing_by all_goals simp only [List.length_cons]; omega

/-- The pieces of an expression text. -/
def parseExpression (text : String) : List Piece :=
  pieces (fragment (tokens (trim text.toList)))

end ExecutableUml.Action
