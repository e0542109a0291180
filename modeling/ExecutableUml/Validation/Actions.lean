import ExecutableUml.Action.Grammar
import ExecutableUml.Validation.Structure

/-! Checks of action text, line by line: every statement is recognized, the names it uses are
declared, and blocks are nested well. -/

namespace ExecutableUml

open ExecutableUml.Action

/-- Faults of a statement by itself. -/
def Action.Statement.faults (refs : References) (s : Statement) : List Fault :=
  (match s with
    | .unrecognized line => [.unrecognizedStatement line]
    | .selectInstances _ _ c _ => if refs.hasClass c then [] else [.unknownSelectedClass c]
    | .createObject _ c => if refs.hasClass c then [] else [.unknownCreatedClass c]
    | .generate _ e _ _ => if refs.hasEvent e then [] else [.undeclaredEvent e]
    | _ => []) ++
  (s.relationshipIds.filter fun r => !refs.hasRelationship r).map .unknownRelationship

/-- An open block and the line that opened it. -/
structure OpenBlock where
  block : Block
  line : Nat
deriving DecidableEq, Repr

/-- The end of a block closes the innermost one, whatever it is. -/
def closeBlock (closing : Block) : List OpenBlock → List Fault × List OpenBlock
  | [] => ([.unmatchedEnd closing], [])
  | b :: outer =>
    (if b.block = closing then [] else [.mismatchedEnd closing b.block b.line], outer)

def branchFault (label : String) (blocks : List OpenBlock) : List Fault :=
  if blocks.head?.any fun b => b.block = .branch then [] else [.branchOutsideIf label]

/-- What a statement does to the open blocks, innermost first. -/
def Action.Statement.nesting (line : Nat) (blocks : List OpenBlock) :
    Statement → List Fault × List OpenBlock
  | .ifBegin _ => ([], ⟨.branch, line⟩ :: blocks)
  | .forEach _ _ => ([], ⟨.forEach, line⟩ :: blocks)
  | .whileBegin _ => ([], ⟨.loop, line⟩ :: blocks)
  | .elseIf _ => (branchFault "elif" blocks, blocks)
  | .elseBegin => (branchFault "else" blocks, blocks)
  | .ifEnd => closeBlock .branch blocks
  | .forEnd => closeBlock .forEach blocks
  | .whileEnd => closeBlock .loop blocks
  | _ => ([], blocks)

def linePath (path : String) (line : Nat) : String := field path ("line" ++ toString line)

def lineFindings (refs : References) (path : String) (blocks : List OpenBlock) :
    List BodyLine → List Finding
  | [] => blocks.reverse.map fun b => ⟨linePath path b.line, .neverClosed b.block⟩
  | l :: ls =>
    let (faults, blocks) := l.statement.nesting l.number blocks
    (l.statement.faults refs ++ faults).map (Finding.mk (linePath path l.number)) ++
      lineFindings refs path blocks ls

/-- Findings on one action text. -/
def actionFindings (refs : References) (path body : String) : List Finding :=
  lineFindings refs path [] (parseBody body)

namespace Document

def entryActionFindings (refs : References) (path : String) (entry : Json) : List Finding :=
  actionFindings refs (field path "action") (actionText (entry.get? "action"))

def actionsFindings (doc : Json) (refs : References) : List Finding :=
  (classes doc).zipIdx.flatMap (fun (c, i) =>
    checkItems (field (indexed "classes" i) "states") (items c "states")
      (entryActionFindings refs) ++
    checkItems (field (indexed "classes" i) "operations") (items c "operations")
      (entryActionFindings refs)) ++
  checkItems "functions" (items doc "functions") (entryActionFindings refs)

/-- Everything that is wrong with a document. -/
def findings (doc : Json) : List Finding :=
  let shape := shapeFindings doc
  if shape.isEmpty then structureFindings doc ++ actionsFindings doc (references doc) else shape

def issues (doc : Json) : List Issue := (findings doc).map Finding.issue

end Document

end ExecutableUml
