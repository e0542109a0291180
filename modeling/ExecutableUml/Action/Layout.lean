import ExecutableUml.Text.Trim

/-! Lines of code in nested blocks. Statements announce what they put out; the layout gives every
line its level, fills a block that got no statement with `pass`, and closes what is still open at
the end. -/

namespace ExecutableUml.Action

open Text

inductive LineKind where
  | comment
  | header
  | simple
deriving DecidableEq, Repr

structure Line where
  level : Nat
  kind : LineKind
  text : String
deriving DecidableEq, Repr

inductive Emission where
  | comment (text : String)
  | simple (text : String)
  /-- A call whose failure is reported and does not stop the action. -/
  | guarded (call failure : String)
  | openBlock (header : String)
  /-- The end of a branch and the start of the next one. -/
  | nextBranch (header : String)
  | closeBlock
deriving DecidableEq, Repr

/-- The open blocks, innermost first: whether each has a statement yet. -/
abbrev Blocks := List Bool

def Blocks.filled : Blocks → Blocks
  | [] => []
  | _ :: outer => true :: outer

@[simp] theorem Blocks.length_filled (blocks : Blocks) : blocks.filled.length = blocks.length := by
  cases blocks <;> rfl

/-- The line that a block without statements needs at its end. -/
def Blocks.filler (level : Nat) : Blocks → List Line
  | false :: _ => [⟨level, .simple, "pass"⟩]
  | _ => []

namespace Emission

def isExecutable : Emission → Bool
  | .simple _ => true
  | .guarded _ _ => true
  | .openBlock _ => true
  | _ => false

def commentText (text : String) : String := if text.isEmpty then "#" else "# " ++ text

def lines (level : Nat) (blocks : Blocks) : Emission → List Line
  | .comment text => [⟨level, .comment, commentText text⟩]
  | .simple text => [⟨level, .simple, text⟩]
  | .guarded call failure =>
    [⟨level, .header, "try:"⟩,
     ⟨level + 1, .simple, call⟩,
     ⟨level, .header, "except Exception as exc:"⟩,
     ⟨level + 1, .simple, "rt.report(\"" ++ failure ++ "\", exc)"⟩]
  | .openBlock header => [⟨level, .header, header⟩]
  | .nextBranch header => blocks.filler level ++ [⟨level - 1, .header, header⟩]
  | .closeBlock => blocks.filler level

def levelAfter (level : Nat) : Emission → Nat
  | .openBlock _ => level + 1
  | .nextBranch _ => level - 1 + 1
  | .closeBlock => level - 1
  | _ => level

def after (blocks : Blocks) : Emission → Blocks
  | .comment _ => blocks
  | .simple _ => blocks.filled
  | .guarded _ _ => blocks.filled
  | .openBlock _ => false :: blocks.filled
  | .nextBranch _ => false :: blocks.tail
  | .closeBlock => blocks.tail

end Emission

/-- How far a layout has come: the level of its next line, the open blocks, and how many statements
it has written. -/
structure Emitter where
  level : Nat
  blocks : Blocks
  executable : Nat
deriving DecidableEq, Repr

namespace Emitter

def start : Emitter := ⟨0, [], 0⟩

def lines (s : Emitter) (e : Emission) : List Line := e.lines s.level s.blocks

def step (s : Emitter) (e : Emission) : Emitter where
  level := e.levelAfter s.level
  blocks := e.after s.blocks
  executable := if e.isExecutable then s.executable + 1 else s.executable

end Emitter

/-- The fillers of all open blocks, innermost first. -/
def closeAll (level : Nat) : Blocks → List Line
  | [] => []
  | block :: outer => Blocks.filler level (block :: outer) ++ closeAll (level - 1) outer

def layoutFrom (s : Emitter) : List Emission → List Line
  | [] => closeAll s.level s.blocks ++ if s.executable = 0 then [⟨0, .simple, "pass"⟩] else []
  | e :: es => s.lines e ++ layoutFrom (s.step e) es

def layout (es : List Emission) : List Line := layoutFrom .start es

def Line.render (indent : String) (l : Line) : String :=
  indent ++ String.ofList (List.replicate (4 * l.level) ' ') ++ l.text

/-- Code text: every line behind `indent` and four blanks for each level. -/
def renderLines (indent : String) (ls : List Line) : String :=
  joinWith "\n" (ls.map (Line.render indent)) ++ "\n"

end ExecutableUml.Action
