import ExecutableUml.Action.Body
import ExecutableUml.Proofs.Action.BlockStack

/-! Well nested bodies as trees of blocks, and the code of a body printed by recursion on its tree.
The layout works on a stack of open blocks instead; the two give the same lines. -/

namespace ExecutableUml.Action

open Text

namespace Statement

def isBlockMark : Statement → Bool
  | .ifBegin _ => true
  | .elseIf _ => true
  | .elseBegin => true
  | .ifEnd => true
  | .forEach _ _ => true
  | .forEnd => true
  | .whileBegin _ => true
  | .whileEnd => true
  | _ => false

def loopEnd? : Statement → Option Statement
  | .forEach _ _ => some .forEnd
  | .whileBegin _ => some .whileEnd
  | _ => none

def isIf : Statement → Bool
  | .ifBegin _ => true
  | _ => false

def isNextBranch : Statement → Bool
  | .elseIf _ => true
  | .elseBegin => true
  | _ => false

/-- Comments, and lines that are kept as comments, do nothing. -/
def isExecutable : Statement → Bool
  | .comment _ => false
  | .unrecognized _ => false
  | _ => true

end Statement

mutual

/-- The lines of a body or of a branch in which every block is closed. -/
inductive Forest where
  | nil
  | plain (l : BodyLine) (h : l.statement.isBlockMark = false) (rest : Forest)
  | loop (opener : BodyLine) (body : Forest) (closer : BodyLine)
      (h : opener.statement.loopEnd? = some closer.statement) (rest : Forest)
  | choice (opener : BodyLine) (h : opener.statement.isIf = true) (body : Forest)
      (more : Branches) (rest : Forest)

inductive Branches where
  | close (closer : BodyLine) (h : closer.statement = .ifEnd)
  | next (header : BodyLine) (h : header.statement.isNextBranch = true) (body : Forest)
      (more : Branches)

end

mutual

def Forest.lines : Forest → List BodyLine
  | .nil => []
  | .plain l _ rest => l :: rest.lines
  | .loop opener body closer _ rest => opener :: (body.lines ++ closer :: rest.lines)
  | .choice opener _ body more rest => opener :: (body.lines ++ (more.lines ++ rest.lines))

def Branches.lines : Branches → List BodyLine
  | .close closer _ => [closer]
  | .next header _ body more => header :: (body.lines ++ more.lines)

end

def Forest.isFilled : Forest → Bool
  | .nil => false
  | .plain l _ rest => l.statement.isExecutable || rest.isFilled
  | .loop _ _ _ _ _ => true
  | .choice _ _ _ _ _ => true

def passUnless (filled : Bool) (level : Nat) : List Line :=
  if filled then [] else [⟨level, .simple, "pass"⟩]

def Emission.standing (level : Nat) : Emission → List Line
  | .comment text => [⟨level, .comment, commentText text⟩]
  | .simple text => [⟨level, .simple, text⟩]
  | .guarded call failure =>
    [⟨level, .header, "try:"⟩,
     ⟨level + 1, .simple, call⟩,
     ⟨level, .header, "except Exception as exc:"⟩,
     ⟨level + 1, .simple, "rt.report(\"" ++ failure ++ "\", exc)"⟩]
  | _ => []

namespace Scope

def header (s : Scope) : Statement → String
  | .ifBegin c => "if " ++ (s.expression c).text ++ ":"
  | .elseIf c => "elif " ++ (s.expression c).text ++ ":"
  | .elseBegin => "else:"
  | .forEach var collection =>
    "for " ++ var ++ " in (" ++ (s.expression collection).text ++ " or []):"
  | .whileBegin c => "while " ++ (s.expression c).text ++ ":"
  | _ => ""

def emissions (s : Scope) (origins : List (String × String)) (l : BodyLine) : List Emission :=
  (s.statement origins l.text l.statement).emissions

def next (s : Scope) (origins : List (String × String)) (l : BodyLine) : Scope :=
  (s.statement origins l.text l.statement).scope

def through (s : Scope) (origins : List (String × String)) (ls : List BodyLine) : Scope :=
  ls.foldl (fun s l => s.next origins l) s

end Scope

mutual

/-- The lines of a forest at a level. Each line is read in the scope that the lines before it
leave. -/
def Forest.print (origins : List (String × String)) (level : Nat) (s : Scope) : Forest → List Line
  | .nil => []
  | .plain l _ rest =>
    (s.emissions origins l).flatMap (Emission.standing level) ++
      rest.print origins level (s.next origins l)
  | .loop opener body closer _ rest =>
    let inside := s.next origins opener
    let behind := inside.through origins (body.lines ++ [closer])
    ⟨level, .header, s.header opener.statement⟩ ::
      (body.print origins (level + 1) inside ++ passUnless body.isFilled (level + 1)) ++
      rest.print origins level behind
  | .choice opener _ body more rest =>
    let inside := s.next origins opener
    let branches := inside.through origins body.lines
    let behind := branches.through origins more.lines
    ⟨level, .header, s.header opener.statement⟩ ::
      (body.print origins (level + 1) inside ++ passUnless body.isFilled (level + 1)) ++
      more.print origins level branches ++
      rest.print origins level behind

def Branches.print (origins : List (String × String)) (level : Nat) (s : Scope) :
    Branches → List Line
  | .close _ _ => []
  | .next header _ body more =>
    let inside := s.next origins header
    ⟨level, .header, s.header header.statement⟩ ::
      (body.print origins (level + 1) inside ++ passUnless body.isFilled (level + 1)) ++
      more.print origins level (inside.through origins body.lines)

end

/-- A whole body is printed as one branch that stands at level zero. -/
def Forest.printBody (origins : List (String × String)) (s : Scope) (t : Forest) : List Line :=
  t.print origins 0 s ++ passUnless t.isFilled 0

namespace Blocks

def fillIf (filled : Bool) (blocks : Blocks) : Blocks := if filled then blocks.filled else blocks

theorem filled_filled (blocks : Blocks) : blocks.filled.filled = blocks.filled := by
  cases blocks <;> rfl

theorem length_fillIf (filled : Bool) (blocks : Blocks) :
    (blocks.fillIf filled).length = blocks.length := by
  cases filled
  · rfl
  · exact Blocks.length_filled blocks

theorem fillIf_filled (filled : Bool) (blocks : Blocks) :
    blocks.filled.fillIf filled = blocks.filled := by
  cases filled
  · rfl
  · exact filled_filled blocks

theorem fillIf_fillIf (a b : Bool) (blocks : Blocks) :
    (blocks.fillIf a).fillIf b = blocks.fillIf (a || b) := by
  cases a
  · rfl
  · exact fillIf_filled b blocks

theorem fillIf_cons (filled : Bool) (outer : Blocks) :
    Blocks.fillIf filled (false :: outer) = filled :: outer := by
  cases filled <;> rfl

theorem filler_cons (filled : Bool) (outer : Blocks) (level : Nat) :
    Blocks.filler level (filled :: outer) = passUnless filled level := by
  cases filled <;> rfl

end Blocks

def Emission.isStanding : Emission → Bool
  | .comment _ => true
  | .simple _ => true
  | .guarded _ _ => true
  | _ => false

theorem Emission.lines_standing {e : Emission} (h : e.isStanding = true) (blocks : Blocks) :
    e.lines blocks.length blocks = e.standing blocks.length := by
  cases e with
  | comment text => rfl
  | simple text => rfl
  | guarded call failure => rfl
  | _ => cases h

theorem Emission.after_standing {e : Emission} (h : e.isStanding = true) (blocks : Blocks) :
    e.after blocks = blocks.fillIf e.isExecutable := by
  cases e with
  | comment text => rfl
  | simple text => rfl
  | guarded call failure => rfl
  | _ => cases h

theorem stackLayout_standing {es : List Emission} (h : ∀ e ∈ es, e.isStanding = true)
    (blocks : Blocks) (ran : Bool) (rest : List Emission) :
    stackLayout blocks ran (es ++ rest) =
      es.flatMap (Emission.standing blocks.length) ++
        stackLayout (blocks.fillIf (es.any Emission.isExecutable))
          (ran || es.any Emission.isExecutable) rest := by
  induction es generalizing blocks ran with
  | nil => simp [Blocks.fillIf]
  | cons e es ih =>
    have he := h e List.mem_cons_self
    rw [List.cons_append, stackLayout, e.lines_standing he, e.after_standing he,
      ih fun e' he' => h e' (List.mem_cons_of_mem e he')]
    simp only [Blocks.length_fillIf, Blocks.fillIf_fillIf, List.flatMap_cons, List.any_cons,
      Bool.or_assoc, List.append_assoc]

namespace Scope

variable (s : Scope) (origins : List (String × String))

theorem body_fst_cons (l : BodyLine) (ls : List BodyLine) :
    (s.body origins (l :: ls)).1 =
      s.emissions origins l ++ ((s.next origins l).body origins ls).1 :=
  rfl

theorem body_fst_append (a b : List BodyLine) :
    (s.body origins (a ++ b)).1 =
      (s.body origins a).1 ++ ((s.through origins a).body origins b).1 := by
  induction a generalizing s with
  | nil => rfl
  | cons l a ih => rw [List.cons_append, body_fst_cons, body_fst_cons, ih, List.append_assoc]; rfl

theorem emissions_if {l : BodyLine} (h : l.statement.isIf = true) :
    s.emissions origins l = [.openBlock (s.header l.statement)] := by
  unfold emissions
  generalize l.statement = st at h
  cases st with
  | ifBegin c => rfl
  | _ => cases h

theorem emissions_loop {l : BodyLine} {closer : Statement}
    (h : l.statement.loopEnd? = some closer) :
    s.emissions origins l = [.openBlock (s.header l.statement)] := by
  unfold emissions
  generalize l.statement = st at h
  cases st with
  | forEach var collection => rfl
  | whileBegin c => rfl
  | _ => cases h

theorem emissions_nextBranch {l : BodyLine} (h : l.statement.isNextBranch = true) :
    s.emissions origins l = [.nextBranch (s.header l.statement)] := by
  unfold emissions
  generalize l.statement = st at h
  cases st with
  | elseIf c => rfl
  | elseBegin => rfl
  | _ => cases h

theorem emissions_loopEnd {l : BodyLine} {opener : Statement}
    (h : opener.loopEnd? = some l.statement) : s.emissions origins l = [.closeBlock] := by
  unfold emissions
  generalize l.statement = st at h
  cases opener with
  | forEach var collection => cases h; rfl
  | whileBegin c => cases h; rfl
  | _ => cases h

theorem emissions_ifEnd {l : BodyLine} (h : l.statement = .ifEnd) :
    s.emissions origins l = [.closeBlock] := by
  rw [emissions, h]
  rfl

theorem forcedOrigin_standing (event target rendered : String) :
    ∀ e ∈ s.forcedOrigin origins event target rendered, e.isStanding = true := by
  unfold forcedOrigin
  split
  · split <;> simp [Emission.isStanding]
  · simp

theorem emissions_standing {l : BodyLine} (h : l.statement.isBlockMark = false) :
    ∀ e ∈ s.emissions origins l, e.isStanding = true := by
  unfold emissions
  generalize l.statement = st at h
  cases st with
  | ifBegin | elseIf | elseBegin | ifEnd | forEach | forEnd | whileBegin | whileEnd => cases h
  | returnValue value => cases value <;> simp [statement, Emission.isStanding]
  | relate a b relId link => cases link <;> simp [statement, Emission.isStanding]
  | unrelate a b relId link => cases link <;> simp [statement, Emission.isStanding]
  | assign target value => cases target <;> simp [statement, Emission.isStanding]
  | generate keyLetters event args target =>
    intro e he
    simp only [statement, List.mem_append, List.mem_singleton] at he
    rcases he with (rfl | he) | rfl
    · rfl
    · exact s.forcedOrigin_standing origins _ _ _ e he
    · rfl
  | _ => simp [statement, Emission.isStanding]

theorem emissions_executable {l : BodyLine} (h : l.statement.isBlockMark = false) :
    (s.emissions origins l).any Emission.isExecutable = l.statement.isExecutable := by
  unfold emissions
  generalize l.statement = st at h
  cases st with
  | ifBegin | elseIf | elseBegin | ifEnd | forEach | forEnd | whileBegin | whileEnd => cases h
  | returnValue value => cases value <;> rfl
  | relate a b relId link => cases link <;> rfl
  | unrelate a b relId link => cases link <;> rfl
  | assign target value => cases target <;> rfl
  | generate keyLetters event args target =>
    simp [statement, Emission.isExecutable, Statement.isExecutable]
  | _ => rfl

end Scope

theorem stackLayout_openBlock (blocks : Blocks) (ran : Bool) (header : String)
    (es : List Emission) :
    stackLayout blocks ran (.openBlock header :: es) =
      ⟨blocks.length, .header, header⟩ :: stackLayout (false :: blocks.filled) true es := by
  simp [stackLayout, Emission.lines, Emission.after, Emission.isExecutable]

theorem stackLayout_closeBlock (filled : Bool) (outer : Blocks) (es : List Emission) :
    stackLayout (filled :: outer) true (.closeBlock :: es) =
      passUnless filled (outer.length + 1) ++ stackLayout outer true es := by
  simp [stackLayout, Emission.lines, Emission.after, Blocks.filler_cons]

theorem stackLayout_nextBranch (filled : Bool) (outer : Blocks) (header : String)
    (es : List Emission) :
    stackLayout (filled :: outer) true (.nextBranch header :: es) =
      passUnless filled (outer.length + 1) ++
        ⟨outer.length, .header, header⟩ :: stackLayout (false :: outer) true es := by
  simp [stackLayout, Emission.lines, Emission.after, Blocks.filler_cons]

-- The induction is on the tree; the stack below and the emissions behind stay arbitrary.
mutual

theorem Forest.stackLayout_lines (origins : List (String × String)) :
    ∀ (t : Forest) (s : Scope) (blocks : Blocks) (ran : Bool) (es : List Emission),
      stackLayout blocks ran ((s.body origins t.lines).1 ++ es) =
        t.print origins blocks.length s ++
          stackLayout (blocks.fillIf t.isFilled) (ran || t.isFilled) es
  | .nil, s, blocks, ran, es => by
    simp [Forest.lines, Forest.print, Forest.isFilled, Scope.body, Blocks.fillIf]
  | .plain l h rest, s, blocks, ran, es => by
    rw [Forest.lines, Scope.body_fst_cons, List.append_assoc,
      stackLayout_standing (s.emissions_standing origins h), s.emissions_executable origins h,
      Forest.stackLayout_lines origins rest]
    simp only [Forest.print, Forest.isFilled, Blocks.length_fillIf, Blocks.fillIf_fillIf,
      Bool.or_assoc, List.append_assoc]
  | .loop opener body closer h rest, s, blocks, ran, es => by
    have hclose := fun s' : Scope => s'.emissions_loopEnd origins h
    rw [Forest.lines, Scope.body_fst_cons, s.emissions_loop origins h, Scope.body_fst_append,
      Scope.body_fst_cons, hclose]
    simp only [List.cons_append, List.nil_append, List.append_assoc]
    rw [stackLayout_openBlock, Forest.stackLayout_lines origins body, Bool.true_or,
      Blocks.fillIf_cons, stackLayout_closeBlock, Forest.stackLayout_lines origins rest]
    simp [Forest.print, Forest.isFilled, Blocks.fillIf, Blocks.filled_filled,
      Scope.through]
  | .choice opener h body more rest, s, blocks, ran, es => by
    rw [Forest.lines, Scope.body_fst_cons, s.emissions_if origins h, Scope.body_fst_append,
      Scope.body_fst_append]
    simp only [List.cons_append, List.nil_append, List.append_assoc]
    rw [stackLayout_openBlock, Forest.stackLayout_lines origins body, Bool.true_or,
      Blocks.fillIf_cons, Branches.stackLayout_lines origins more,
      Forest.stackLayout_lines origins rest]
    simp [Forest.print, Forest.isFilled, Blocks.fillIf, Blocks.filled_filled]

theorem Branches.stackLayout_lines (origins : List (String × String)) :
    ∀ (more : Branches) (s : Scope) (filled : Bool) (outer : Blocks) (es : List Emission),
      stackLayout (filled :: outer) true ((s.body origins more.lines).1 ++ es) =
        passUnless filled (outer.length + 1) ++
          (more.print origins outer.length s ++ stackLayout outer true es)
  | .close closer h, s, filled, outer, es => by
    rw [Branches.lines, Scope.body_fst_cons, s.emissions_ifEnd origins h]
    simp [Scope.body, stackLayout_closeBlock, Branches.print]
  | .next header h body more, s, filled, outer, es => by
    rw [Branches.lines, Scope.body_fst_cons, s.emissions_nextBranch origins h,
      Scope.body_fst_append]
    simp only [List.cons_append, List.nil_append, List.append_assoc]
    rw [stackLayout_nextBranch, Forest.stackLayout_lines origins body, Bool.true_or,
      Blocks.fillIf_cons, Branches.stackLayout_lines origins more]
    simp [Branches.print]

end

theorem Forest.layout_lines (origins : List (String × String)) (s : Scope) (t : Forest) :
    layout (s.body origins t.lines).1 = t.printBody origins s := by
  have h := Forest.stackLayout_lines origins t s [] false []
  rw [List.append_nil] at h
  rw [layout_eq_stackLayout, h, Forest.printBody]
  cases t.isFilled <;> rfl

/-- The code of a well nested body is its tree of blocks, printed by recursion. -/
theorem wellNested_code (s : Scope) (origins : List (String × String)) (indent body : String)
    (t : Forest) (h : parseBody body = t.lines) :
    renderLines indent (compileBody s origins body).lines =
      renderLines indent (t.printBody origins s) := by
  rw [compileBody, h]
  exact congrArg (renderLines indent) (Forest.layout_lines origins s t)

/-- A loop around a choice whose second branch only has a comment. -/
def countdownTree : Forest :=
  .loop ⟨1, "while (n > 0)", .whileBegin "n > 0"⟩
    (.choice ⟨2, "if (n)", .ifBegin "n"⟩ rfl
      (.plain ⟨3, "n = n - 1", .assign (.variable "n") "n - 1"⟩ rfl .nil)
      (.next ⟨4, "else", .elseBegin⟩ rfl (.plain ⟨5, "// done", .comment "done"⟩ rfl .nil)
        (.close ⟨6, "end if", .ifEnd⟩ rfl))
      .nil)
    ⟨7, "end while", .whileEnd⟩ rfl .nil

theorem countdown_code :
    parseBody "while (n > 0)\nif (n)\nn = n - 1\nelse\n// done\nend if\nend while" =
      countdownTree.lines ∧
    renderLines "" (compileBody (Scope.ofOwner .empty none "owner") []
      "while (n > 0)\nif (n)\nn = n - 1\nelse\n// done\nend if\nend while").lines =
      renderLines "" (countdownTree.printBody [] (Scope.ofOwner .empty none "owner")) := by
  have h : parseBody "while (n > 0)\nif (n)\nn = n - 1\nelse\n// done\nend if\nend while" =
      countdownTree.lines := by decide +kernel
  exact ⟨h, wellNested_code _ _ _ _ _ h⟩

end ExecutableUml.Action
