import ExecutableUml.Proofs.Action.NestedBlocks

/-! The `if` chains in the code of action text without findings. A chain is legal when every `elif`
and every `else` continues the branch of an `if` or an `elif` of its own level. The check asks a
branch mark only for an open choice, so it accepts marks behind an `else`; the chains of the code
are legal exactly when an `else` heads only the last branch of each choice. -/

namespace ExecutableUml.Action

open Text

def Line.isHeaderOf (word : String) (l : Line) : Bool :=
  l.kind == .header && startsWith word.toList l.text.toList

def Line.continuesChain (l : Line) : Bool := l.isHeaderOf "elif " || l.isHeaderOf "else:"

def Line.mayBeContinued (l : Line) : Bool := l.isHeaderOf "if " || l.isHeaderOf "elif "

/-- What stands before the line ends with the branch of an `if` or an `elif` of the same level: its
header, and nothing behind it that is not deeper. -/
def ContinuesBranch (before : List Line) (l : Line) : Prop :=
  ∃ earlier head branch, before = earlier ++ head :: branch ∧ head.mayBeContinued = true ∧
    head.level = l.level ∧ ∀ m ∈ branch, l.level < m.level

/-- Behind the lines before, every `elif` and every `else` continues a branch. -/
def ChainedFrom (before ls : List Line) : Prop :=
  ∀ front l back, ls = front ++ l :: back → l.continuesChain = true →
    ContinuesBranch (before ++ front) l

/-- The `if` chains that a reader of the code insists on. -/
def IfChainLaw (ls : List Line) : Prop := ChainedFrom [] ls

/-- The line that is continued is the last one that is not deeper. -/
theorem continuesBranch_iff {earlier branch : List Line} {head l : Line}
    (hlevel : head.level = l.level) (hdeep : ∀ m ∈ branch, l.level < m.level) :
    ContinuesBranch (earlier ++ head :: branch) l ↔ head.mayBeContinued = true := by
  constructor
  · rintro ⟨earlier', head', branch', heq, hhead, hlevel', hdeep'⟩
    rcases List.append_eq_append_iff.1 heq with ⟨part, -, hpart⟩ | ⟨part, -, hpart⟩
    · cases part with
      | nil =>
        cases hpart
        exact hhead
      | cons m part =>
        cases hpart
        have := hdeep head' (by simp)
        omega
    · cases part with
      | nil =>
        cases hpart
        exact hhead
      | cons m part =>
        cases hpart
        have := hdeep' head (by simp)
        omega
  · intro hhead
    exact ⟨earlier, head, branch, rfl, hhead, hlevel, hdeep⟩

theorem chainedFrom_append {before a b : List Line} :
    ChainedFrom before (a ++ b) ↔ ChainedFrom before a ∧ ChainedFrom (before ++ a) b := by
  constructor
  · intro h
    constructor
    · rintro front l back rfl hl
      exact h front l (back ++ b) (by simp) hl
    · rintro front l back rfl hl
      rw [List.append_assoc]
      exact h (a ++ front) l back (by simp) hl
  · rintro ⟨ha, hb⟩ front l back heq hl
    rcases List.append_eq_append_iff.1 heq with ⟨part, rfl, hpart⟩ | ⟨part, rfl, hpart⟩
    · rw [← List.append_assoc]
      exact hb part l back hpart hl
    · cases part with
      | nil =>
        have := hb [] l back hpart.symm hl
        simpa using this
      | cons m part =>
        cases hpart
        exact ha front l part rfl hl

theorem chainedFrom_cons {before ls : List Line} {l : Line} :
    ChainedFrom before (l :: ls) ↔
      (l.continuesChain = true → ContinuesBranch before l) ∧ ChainedFrom (before ++ [l]) ls := by
  have hone : ChainedFrom before [l] ↔ (l.continuesChain = true → ContinuesBranch before l) := by
    constructor
    · intro h hl
      simpa using h [] l [] rfl hl
    · intro h front m back heq hm
      cases front with
      | nil =>
        cases heq
        simpa using h hm
      | cons first front => simp at heq
  rw [← hone]
  exact chainedFrom_append (a := [l])

/-- Lines without further branches break no chain. -/
theorem chainedFrom_of_none {before ls : List Line} (h : ∀ l ∈ ls, l.continuesChain = false) :
    ChainedFrom before ls := by
  rintro front l back rfl hl
  rw [h l (by simp)] at hl
  cases hl

theorem passUnless_continues (filled : Bool) (level : Nat) :
    ∀ l ∈ passUnless filled level, l.continuesChain = false := by
  cases filled <;> simp [passUnless, Line.continuesChain, Line.isHeaderOf]

theorem Emission.standing_continues (level : Nat) (e : Emission) :
    ∀ l ∈ e.standing level, l.continuesChain = false := by
  cases e with
  | guarded call failure =>
    simp [standing, Line.continuesChain, Line.isHeaderOf, startsWith, stripStart]
  | _ => simp [standing, Line.continuesChain, Line.isHeaderOf]

namespace Scope

variable (s : Scope) (level : Nat) {st : Statement}

theorem header_if (h : st.isIf = true) :
    (⟨level, .header, s.header st⟩ : Line).continuesChain = false ∧
      (⟨level, .header, s.header st⟩ : Line).mayBeContinued = true := by
  cases st with
  | ifBegin c =>
    simp [Line.continuesChain, Line.mayBeContinued, Line.isHeaderOf, header, startsWith,
      stripStart]
  | _ => cases h

theorem header_loop {closer : Statement} (h : st.loopEnd? = some closer) :
    (⟨level, .header, s.header st⟩ : Line).continuesChain = false := by
  cases st with
  | forEach var collection =>
    simp [Line.continuesChain, Line.isHeaderOf, header, startsWith, stripStart]
  | whileBegin c => simp [Line.continuesChain, Line.isHeaderOf, header, startsWith, stripStart]
  | _ => cases h

/-- Of the further branches, only that of an `else` cannot be continued. -/
theorem header_nextBranch (h : st.isNextBranch = true) :
    (⟨level, .header, s.header st⟩ : Line).continuesChain = true ∧
      ((⟨level, .header, s.header st⟩ : Line).mayBeContinued = true ↔ st ≠ .elseBegin) := by
  cases st with
  | elseIf c =>
    simp [Line.continuesChain, Line.mayBeContinued, Line.isHeaderOf, header, startsWith,
      stripStart]
  | elseBegin =>
    simp [Line.continuesChain, Line.mayBeContinued, Line.isHeaderOf, header, startsWith,
      stripStart]
  | _ => cases h

end Scope

def Branches.isEnd : Branches → Bool
  | .close _ _ => true
  | .next _ _ _ _ => false

mutual

/-- In every choice, only the last branch may be that of an `else`. -/
def Forest.ElseLast : Forest → Prop
  | .nil => True
  | .plain _ _ rest => rest.ElseLast
  | .loop _ body _ _ rest => body.ElseLast ∧ rest.ElseLast
  | .choice _ _ body more rest => body.ElseLast ∧ more.ElseLast ∧ rest.ElseLast

def Branches.ElseLast : Branches → Prop
  | .close _ _ => True
  | .next header _ body more =>
    (header.statement = .elseBegin → more.isEnd = true) ∧ body.ElseLast ∧ more.ElseLast

end

def branchLines (origins : List (String × String)) (level : Nat) (header : String) (inside : Scope)
    (body : Forest) : List Line :=
  ⟨level, .header, header⟩ ::
    (body.print origins (level + 1) inside ++ passUnless body.isFilled (level + 1))

theorem Emission.standing_level {level : Nat} {e : Emission} :
    ∀ l ∈ e.standing level, level ≤ l.level := by
  cases e with
  | guarded call failure => simp [standing]
  | _ => simp [standing]

theorem deeper_of_print {origins : List (String × String)} {level : Nat} {inside : Scope}
    {body : Forest}
    (h : ∀ l ∈ body.print origins (level + 1) inside, level + 1 ≤ l.level) :
    ∀ l ∈ body.print origins (level + 1) inside ++ passUnless body.isFilled (level + 1),
      level < l.level := by
  intro l hl
  rcases List.mem_append.1 hl with hl | hl
  · exact h l hl
  · cases hfilled : body.isFilled <;> simp_all [passUnless]

theorem branchLines_level {origins : List (String × String)} {level : Nat} {header : String}
    {inside : Scope} {body : Forest}
    (h : ∀ l ∈ body.print origins (level + 1) inside, level + 1 ≤ l.level) :
    ∀ l ∈ branchLines origins level header inside body, level ≤ l.level := by
  intro l hl
  rcases List.mem_cons.1 hl with rfl | hl
  · exact Nat.le_refl level
  · exact Nat.le_of_lt (deeper_of_print h l hl)

mutual

/-- Everything in a forest stands at its level or deeper. -/
theorem Forest.print_level (origins : List (String × String)) :
    ∀ (t : Forest) (level : Nat) (s : Scope), ∀ l ∈ t.print origins level s, level ≤ l.level
  | .nil, level, s => by simp [Forest.print]
  | .plain first _ rest, level, s => by
    intro l hl
    rcases List.mem_append.1 hl with hl | hl
    · obtain ⟨e, -, hl⟩ := List.mem_flatMap.1 hl
      exact Emission.standing_level l hl
    · exact Forest.print_level origins rest level _ l hl
  | .loop opener body closer _ rest, level, s => by
    intro l hl
    rcases List.mem_append.1 hl with hl | hl
    · exact branchLines_level (Forest.print_level origins body (level + 1) _) l hl
    · exact Forest.print_level origins rest level _ l hl
  | .choice opener _ body more rest, level, s => by
    intro l hl
    rcases List.mem_append.1 hl with hl | hl
    · rcases List.mem_append.1 hl with hl | hl
      · exact branchLines_level (Forest.print_level origins body (level + 1) _) l hl
      · exact Branches.print_level origins more level _ l hl
    · exact Forest.print_level origins rest level _ l hl

theorem Branches.print_level (origins : List (String × String)) :
    ∀ (more : Branches) (level : Nat) (s : Scope),
      ∀ l ∈ more.print origins level s, level ≤ l.level
  | .close _ _, level, s => by simp [Branches.print]
  | .next header _ body more, level, s => by
    intro l hl
    rcases List.mem_append.1 hl with hl | hl
    · exact branchLines_level (Forest.print_level origins body (level + 1) _) l hl
    · exact Branches.print_level origins more level _ l hl

end

/-- A branch breaks no chain if its header may stand there and its inside breaks none. -/
theorem chainedFrom_branchLines {origins : List (String × String)} {level : Nat} {inside : Scope}
    {body : Forest} {legal : Prop}
    (h : ∀ before, ChainedFrom before (body.print origins (level + 1) inside) ↔ legal)
    (header : String) (before : List Line) :
    ChainedFrom before (branchLines origins level header inside body) ↔
      ((⟨level, .header, header⟩ : Line).continuesChain = true →
        ContinuesBranch before ⟨level, .header, header⟩) ∧ legal := by
  have hpass : ∀ before, ChainedFrom before (passUnless body.isFilled (level + 1)) := fun before =>
    chainedFrom_of_none (passUnless_continues body.isFilled (level + 1))
  rw [branchLines, chainedFrom_cons, chainedFrom_append, h]
  simp only [hpass, and_true]

-- What stands before a forest has no part in its chains; what stands before the branches of a
-- choice ends with the branch that they continue.
mutual

theorem Forest.chainedFrom_print (origins : List (String × String)) :
    ∀ (t : Forest) (level : Nat) (s : Scope) (before : List Line),
      ChainedFrom before (t.print origins level s) ↔ t.ElseLast
  | .nil, level, s, before => by
    rw [Forest.print, Forest.ElseLast, iff_true]
    exact chainedFrom_of_none (by simp)
  | .plain first _ rest, level, s, before => by
    have hfirst : ChainedFrom before
        ((s.emissions origins first).flatMap (Emission.standing level)) := by
      apply chainedFrom_of_none
      intro l hl
      obtain ⟨e, -, hl⟩ := List.mem_flatMap.1 hl
      exact e.standing_continues level l hl
    rw [Forest.print, chainedFrom_append, Forest.chainedFrom_print origins rest, Forest.ElseLast]
    exact and_iff_right hfirst
  | .loop opener body closer h rest, level, s, before => by
    have hbranch := chainedFrom_branchLines
      (Forest.chainedFrom_print origins body (level + 1) (s.next origins opener))
      (s.header opener.statement) before
    simp only [s.header_loop level h, Bool.false_eq_true, false_implies, true_and] at hbranch
    rw [Forest.ElseLast, ← Forest.chainedFrom_print origins rest level _ _]
    exact chainedFrom_append.trans (and_congr_left' hbranch)
  | .choice opener h body more rest, level, s, before => by
    have hbranch := chainedFrom_branchLines
      (Forest.chainedFrom_print origins body (level + 1) (s.next origins opener))
      (s.header opener.statement) before
    simp only [(s.header_if level h).1, Bool.false_eq_true, false_implies, true_and] at hbranch
    have hmore := Branches.chainedFrom_print origins more level
      ((s.next origins opener).through origins body.lines) before
      ⟨level, .header, s.header opener.statement⟩ _ rfl
      (deeper_of_print (Forest.print_level origins body (level + 1) (s.next origins opener)))
    simp only [(s.header_if level h).2, implies_true, true_and] at hmore
    rw [Forest.ElseLast, ← Forest.chainedFrom_print origins rest level _ _, ← and_assoc]
    refine chainedFrom_append.trans (and_congr_left' ?_)
    exact chainedFrom_append.trans (and_congr hbranch hmore)

theorem Branches.chainedFrom_print (origins : List (String × String)) :
    ∀ (more : Branches) (level : Nat) (s : Scope) (earlier : List Line) (head : Line)
      (branch : List Line), head.level = level → (∀ m ∈ branch, level < m.level) →
      (ChainedFrom (earlier ++ head :: branch) (more.print origins level s) ↔
        (more.isEnd = false → head.mayBeContinued = true) ∧ more.ElseLast)
  | .close _ _, level, s, earlier, head, branch, hlevel, hdeep => by
    have hnone : ChainedFrom (earlier ++ head :: branch) [] := chainedFrom_of_none (by simp)
    simp [Branches.print, Branches.isEnd, Branches.ElseLast, hnone]
  | .next header h body more, level, s, earlier, head, branch, hlevel, hdeep => by
    obtain ⟨hcontinues, hlast⟩ := s.header_nextBranch level h
    have hbranch := chainedFrom_branchLines
      (Forest.chainedFrom_print origins body (level + 1) (s.next origins header))
      (s.header header.statement) (earlier ++ head :: branch)
    rw [hcontinues, continuesBranch_iff hlevel hdeep] at hbranch
    have hmore := Branches.chainedFrom_print origins more level
      ((s.next origins header).through origins body.lines) (earlier ++ head :: branch)
      ⟨level, .header, s.header header.statement⟩ _ rfl
      (deeper_of_print (Forest.print_level origins body (level + 1) (s.next origins header)))
    rw [hlast] at hmore
    refine chainedFrom_append.trans ((and_congr hbranch hmore).trans ?_)
    rw [Branches.ElseLast]
    constructor
    · rintro ⟨⟨hhead, hbody⟩, hopen, hrest⟩
      refine ⟨fun _ => hhead rfl, fun helse => ?_, hbody, hrest⟩
      cases hend : more.isEnd with
      | false => exact absurd helse (hopen hend)
      | true => rfl
    · rintro ⟨hhead, helse, hbody, hrest⟩
      refine ⟨⟨fun _ => hhead rfl, hbody⟩, fun hopen hheader => ?_, hrest⟩
      rw [helse hheader] at hopen
      cases hopen

end

theorem Forest.ifChainLaw_printBody (origins : List (String × String)) (s : Scope) (t : Forest) :
    IfChainLaw (t.printBody origins s) ↔ t.ElseLast := by
  rw [Forest.printBody, IfChainLaw, chainedFrom_append, Forest.chainedFrom_print]
  exact and_iff_left (chainedFrom_of_none (passUnless_continues t.isFilled 0))

/-- The chains in the code of a tree of blocks are legal if each `else` heads the last branch of its
choice, and only then. -/
theorem Forest.ifChainLaw_code {body : String} {t : Forest} (h : parseBody body = t.lines)
    (s : Scope) (origins : List (String × String)) :
    IfChainLaw (compileBody s origins body).lines ↔ t.ElseLast := by
  have hlines : (compileBody s origins body).lines = t.printBody origins s := by
    rw [compileBody, h]
    exact Forest.layout_lines origins s t
  rw [hlines, Forest.ifChainLaw_printBody]

/-- Action text without findings is a tree of blocks, and the `if` chains in its code are legal
exactly when no choice in the tree goes on behind its `else`. -/
theorem compileBody_ifChains_iff (refs : References) (path body : String)
    (h : actionFindings refs path body = []) :
    (∃ t : Forest, parseBody body = t.lines) ∧
      ∀ t : Forest, parseBody body = t.lines → ∀ (s : Scope) (origins : List (String × String)),
        (IfChainLaw (compileBody s origins body).lines ↔ t.ElseLast) := by
  constructor
  · exact forest_of_actionFindings h
  · intro t ht s origins
    exact Forest.ifChainLaw_code ht s origins

/-- Two choices, one in a branch of the other, each with its `else` at the end. -/
def nestedChoiceTree : Forest :=
  .choice ⟨1, "if (a)", .ifBegin "a"⟩ rfl
    (.choice ⟨2, "if (b)", .ifBegin "b"⟩ rfl .nil
      (.next ⟨3, "else", .elseBegin⟩ rfl .nil (.close ⟨4, "end if", .ifEnd⟩ rfl)) .nil)
    (.next ⟨5, "elif (c)", .elseIf "c"⟩ rfl .nil
      (.next ⟨6, "else", .elseBegin⟩ rfl .nil (.close ⟨7, "end if", .ifEnd⟩ rfl)))
    .nil

theorem nestedChoice_ifChains :
    actionFindings ⟨[], [], []⟩ "action" "if (a)\nif (b)\nelse\nend if\nelif (c)\nelse\nend if" = [] ∧
    IfChainLaw (compileBody (Scope.ofOwner .empty none "owner") []
      "if (a)\nif (b)\nelse\nend if\nelif (c)\nelse\nend if").lines := by
  have h : actionFindings ⟨[], [], []⟩ "action"
      "if (a)\nif (b)\nelse\nend if\nelif (c)\nelse\nend if" = [] := by decide +kernel
  have htree : parseBody "if (a)\nif (b)\nelse\nend if\nelif (c)\nelse\nend if" =
      nestedChoiceTree.lines := by decide +kernel
  refine ⟨h, ((compileBody_ifChains_iff _ _ _ h).2 _ htree _ _).2 ?_⟩
  simp [nestedChoiceTree, Forest.ElseLast, Branches.ElseLast, Branches.isEnd]

/-- A choice that goes on behind its `else`. -/
def earlyElseTree : Forest :=
  .choice ⟨1, "if (a)", .ifBegin "a"⟩ rfl .nil
    (.next ⟨2, "else", .elseBegin⟩ rfl .nil
      (.next ⟨3, "elif (b)", .elseIf "b"⟩ rfl .nil (.close ⟨4, "end if", .ifEnd⟩ rfl)))
    .nil

theorem earlyElse_chain_broken :
    actionFindings ⟨[], [], []⟩ "action" "if (a)\nelse\nelif (b)\nend if" = [] ∧
    renderLines "" (compileBody (Scope.ofOwner .empty none "owner") []
      "if (a)\nelse\nelif (b)\nend if").lines =
      "if a:\n    pass\nelse:\n    pass\nelif b:\n    pass\n" ∧
    ¬ IfChainLaw (compileBody (Scope.ofOwner .empty none "owner") []
      "if (a)\nelse\nelif (b)\nend if").lines := by
  have htree : parseBody "if (a)\nelse\nelif (b)\nend if" = earlyElseTree.lines := by
    decide +kernel
  refine ⟨by decide +kernel, by decide +kernel, ?_⟩
  rw [Forest.ifChainLaw_code htree]
  simp [earlyElseTree, Forest.ElseLast, Branches.ElseLast, Branches.isEnd]

end ExecutableUml.Action
