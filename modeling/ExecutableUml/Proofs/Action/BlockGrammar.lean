import ExecutableUml.Proofs.Action.NestedBlocks

/-! The check of blocks against a grammar of their marks. The check walks along the lines with a
stack and goes on behind a mark that is out of place; it finds nothing exactly when the marks, all
other statements left out, can be derived from the grammar. -/

namespace ExecutableUml

open ExecutableUml.Action

namespace Fault

def blockPhrase? : Fault → Option String
  | .unmatchedEnd _ => some "without a matching"
  | .mismatchedEnd _ _ _ => some "does not match"
  | .branchOutsideIf _ => some "outside an if block"
  | .neverClosed _ => some "is never closed"
  | _ => none

theorem message_blockPhrase {f : Fault} {phrase : String} (h : f.blockPhrase? = some phrase) :
    ∃ before after, f.message = before ++ phrase ++ after := by
  cases f with
  | unmatchedEnd closing =>
    cases h
    refine ⟨"'" ++ closing.closer ++ "' ", " '" ++ closing.keyword ++ "'", ?_⟩
    calc message (.unmatchedEnd closing)
      _ = "'" ++ closing.closer ++ ("' " ++ "without a matching" ++ " '") ++ closing.keyword ++
          "'" := by simp only [String.reduceAppend]; rfl
      _ = _ := by simp only [String.append_assoc]
  | mismatchedEnd closing innermost openedOn =>
    cases h
    refine ⟨"'" ++ closing.closer ++ "' ",
      " the '" ++ innermost.keyword ++ "' opened on line " ++ toString openedOn, ?_⟩
    calc message (.mismatchedEnd closing innermost openedOn)
      _ = "'" ++ closing.closer ++ ("' " ++ "does not match" ++ " the '") ++ innermost.keyword ++
          "' opened on line " ++ toString openedOn := by simp only [String.reduceAppend]; rfl
      _ = _ := by simp only [String.append_assoc]
  | branchOutsideIf label =>
    cases h
    refine ⟨"'" ++ label ++ "' ", "", ?_⟩
    calc message (.branchOutsideIf label)
      _ = "'" ++ label ++ ("' " ++ "outside an if block" ++ "") := by
          simp only [String.reduceAppend]; rfl
      _ = _ := by simp only [String.append_assoc]
  | neverClosed block =>
    cases h
    refine ⟨"'" ++ block.keyword ++ "' block ", "", ?_⟩
    calc message (.neverClosed block)
      _ = "'" ++ block.keyword ++ ("' block " ++ "is never closed" ++ "") := by
          simp only [String.reduceAppend]; rfl
      _ = _ := by simp only [String.append_assoc]
  | _ => cases h

end Fault

namespace Action

inductive Mark where
  | opens (kind : Block)
  | elif
  | otherwise
  | closes (kind : Block)
deriving DecidableEq, Repr

def Statement.mark? : Statement → Option Mark
  | .ifBegin _ => some (.opens .branch)
  | .elseIf _ => some .elif
  | .elseBegin => some .otherwise
  | .ifEnd => some (.closes .branch)
  | .forEach _ _ => some (.opens .forEach)
  | .forEnd => some (.closes .forEach)
  | .whileBegin _ => some (.opens .loop)
  | .whileEnd => some (.closes .loop)
  | _ => none

/-- What a mark does to the open blocks, innermost first. -/
def Mark.nesting (line : Nat) (blocks : List OpenBlock) : Mark → List Fault × List OpenBlock
  | .opens kind => ([], ⟨kind, line⟩ :: blocks)
  | .elif => (branchFault "elif" blocks, blocks)
  | .otherwise => (branchFault "else" blocks, blocks)
  | .closes kind => closeBlock kind blocks

theorem Statement.nesting_of_mark {st : Statement} {m : Mark} (h : st.mark? = some m) (line : Nat)
    (blocks : List OpenBlock) : st.nesting line blocks = m.nesting line blocks := by
  cases st with
  | ifBegin | elseIf | elseBegin | ifEnd | forEach | forEnd | whileBegin | whileEnd =>
    cases h
    rfl
  | _ => cases h

theorem Statement.mark?_eq_none_iff {st : Statement} :
    st.mark? = none ↔ st.isBlockMark = false := by
  cases st <;> simp [mark?, isBlockMark]

def marks (ls : List BodyLine) : List Mark := ls.filterMap fun l => l.statement.mark?

inductive BlockSymbol where
  | body
  | branches
deriving DecidableEq, Repr

/-- A body is a sequence of blocks, each with its end; a choice may be divided by any number of
further branches. -/
inductive Derives : BlockSymbol → List Mark → Prop where
  | empty : Derives .body []
  | choice {first more rest : List Mark} (hf : Derives .body first) (hm : Derives .branches more)
      (hr : Derives .body rest) :
      Derives .body (.opens .branch :: (first ++ (more ++ .closes .branch :: rest)))
  | forEach {inside rest : List Mark} (hi : Derives .body inside) (hr : Derives .body rest) :
      Derives .body (.opens .forEach :: (inside ++ .closes .forEach :: rest))
  | loop {inside rest : List Mark} (hi : Derives .body inside) (hr : Derives .body rest) :
      Derives .body (.opens .loop :: (inside ++ .closes .loop :: rest))
  | noMore : Derives .branches []
  | elif {inside more : List Mark} (hi : Derives .body inside) (hm : Derives .branches more) :
      Derives .branches (.elif :: (inside ++ more))
  | otherwise {inside more : List Mark} (hi : Derives .body inside)
      (hm : Derives .branches more) : Derives .branches (.otherwise :: (inside ++ more))

theorem marks_append (ls ms : List BodyLine) : marks (ls ++ ms) = marks ls ++ marks ms :=
  List.filterMap_append

theorem marks_cons_of_some {l : BodyLine} {m : Mark} (h : l.statement.mark? = some m)
    (ls : List BodyLine) : marks (l :: ls) = m :: marks ls :=
  List.filterMap_cons_some h

theorem marks_cons_of_none {l : BodyLine} (h : l.statement.mark? = none) (ls : List BodyLine) :
    marks (l :: ls) = marks ls :=
  List.filterMap_cons_none h

mutual

/-- The marks of a tree of blocks can be derived, by recursion on the tree. -/
theorem Forest.derives : ∀ t : Forest, Derives .body (marks t.lines)
  | .nil => .empty
  | .plain l h rest => by
    rw [Forest.lines, marks_cons_of_none (Statement.mark?_eq_none_iff.2 h)]
    exact rest.derives
  | .loop opener body closer h rest => by
    have hbody := body.derives
    have hrest := rest.derives
    rw [Forest.lines]
    cases hst : opener.statement with
    | forEach var collection =>
      rw [hst] at h
      have hend : closer.statement = .forEnd := (Option.some.inj h).symm
      rw [marks_cons_of_some (by rw [hst]; rfl), marks_append,
        marks_cons_of_some (by rw [hend]; rfl)]
      exact .forEach hbody hrest
    | whileBegin c =>
      rw [hst] at h
      have hend : closer.statement = .whileEnd := (Option.some.inj h).symm
      rw [marks_cons_of_some (by rw [hst]; rfl), marks_append,
        marks_cons_of_some (by rw [hend]; rfl)]
      exact .loop hbody hrest
    | _ =>
      rw [hst] at h
      cases h
  | .choice opener h body more rest => by
    have hbody := body.derives
    have hrest := rest.derives
    obtain ⟨branches, hbranches, hmore⟩ := more.derives
    cases hst : opener.statement with
    | ifBegin c =>
      rw [Forest.lines, marks_cons_of_some (by rw [hst]; rfl), marks_append, marks_append, hmore,
        List.append_assoc]
      exact .choice hbody hbranches hrest
    | _ =>
      rw [hst] at h
      cases h

theorem Branches.derives : ∀ t : Branches,
    ∃ more, Derives .branches more ∧ marks t.lines = more ++ [.closes .branch]
  | .close closer h => ⟨[], .noMore, marks_cons_of_some (by rw [h]; rfl) []⟩
  | .next header h body more => by
    have hbody := body.derives
    obtain ⟨branches, hbranches, hmore⟩ := more.derives
    cases hst : header.statement with
    | elseIf c =>
      refine ⟨_, .elif hbody hbranches, ?_⟩
      rw [Branches.lines, marks_cons_of_some (by rw [hst]; rfl), marks_append, hmore,
        List.cons_append, List.append_assoc]
    | elseBegin =>
      refine ⟨_, .otherwise hbody hbranches, ?_⟩
      rw [Branches.lines, marks_cons_of_some (by rw [hst]; rfl), marks_append, hmore,
        List.cons_append, List.append_assoc]
    | _ =>
      rw [hst] at h
      cases h

end

/-- Marks that close every block that is open or that they open, by the kinds on the stack. -/
def Settles : List Block → List Mark → Prop
  | stack, [] => stack = []
  | stack, .opens kind :: ms => Settles (kind :: stack) ms
  | stack, .elif :: ms => stack.head? = some .branch ∧ Settles stack ms
  | stack, .otherwise :: ms => stack.head? = some .branch ∧ Settles stack ms
  | stack, .closes kind :: ms => stack.head? = some kind ∧ Settles stack.tail ms

/-- A derived part in front leaves the stack as it found it; branches need an open choice. -/
theorem Derives.settles {symbol : BlockSymbol} {ms : List Mark} (h : Derives symbol ms)
    {stack : List Block} (hs : symbol = .branches → stack.head? = some .branch)
    {rest : List Mark} (hr : Settles stack rest) : Settles stack (ms ++ rest) := by
  induction h generalizing stack rest with
  | empty => exact hr
  | choice _ _ _ ihf ihm ihr =>
    simp only [List.cons_append, List.append_assoc]
    have hclose := ihr BlockSymbol.noConfusion hr
    exact ihf BlockSymbol.noConfusion (ihm (fun _ => rfl) ⟨rfl, hclose⟩)
  | forEach _ _ ihi ihr =>
    simp only [List.cons_append, List.append_assoc]
    have hclose := ihr BlockSymbol.noConfusion hr
    exact ihi BlockSymbol.noConfusion ⟨rfl, hclose⟩
  | loop _ _ ihi ihr =>
    simp only [List.cons_append, List.append_assoc]
    have hclose := ihr BlockSymbol.noConfusion hr
    exact ihi BlockSymbol.noConfusion ⟨rfl, hclose⟩
  | noMore => exact hr
  | elif _ _ ihi ihm =>
    rw [List.cons_append, List.append_assoc]
    exact ⟨hs rfl, ihi BlockSymbol.noConfusion (ihm hs hr)⟩
  | otherwise _ _ ihi ihm =>
    rw [List.cons_append, List.append_assoc]
    exact ⟨hs rfl, ihi BlockSymbol.noConfusion (ihm hs hr)⟩

section Stack

variable {blocks : List OpenBlock}

theorem branchFault_eq_nil (h : (blocks.map OpenBlock.block).head? = some .branch)
    (label : String) : branchFault label blocks = [] := by
  cases blocks with
  | nil => cases h
  | cons b outer =>
    have hb : b.block = .branch := Option.some.inj h
    simp [branchFault, hb]

theorem closeBlock_eq {kind : Block} (h : (blocks.map OpenBlock.block).head? = some kind) :
    closeBlock kind blocks = ([], blocks.tail) := by
  cases blocks with
  | nil => cases h
  | cons b outer =>
    have hb : b.block = kind := Option.some.inj h
    simp [closeBlock, hb]

theorem closesAll_cons {l : BodyLine} {ls : List BodyLine} {after : List OpenBlock}
    (hl : l.statement.nesting l.number blocks = ([], after)) (h : ClosesAll after ls) :
    ClosesAll blocks (l :: ls) := by
  rw [ClosesAll, hl]
  exact ⟨rfl, h⟩

/-- The check keeps the lines that opened the blocks; their kinds decide. -/
theorem closesAll_of_settles {ls : List BodyLine}
    (h : Settles (blocks.map OpenBlock.block) (marks ls)) : ClosesAll blocks ls := by
  induction ls generalizing blocks with
  | nil => exact List.map_eq_nil_iff.1 h
  | cons l ls ih =>
    cases hm : l.statement.mark? with
    | none =>
      rw [marks_cons_of_none hm] at h
      have hplain := Statement.mark?_eq_none_iff.1 hm
      exact closesAll_cons (Statement.nesting_plain hplain l.number blocks) (ih h)
    | some m =>
      rw [marks_cons_of_some hm] at h
      have hl := Statement.nesting_of_mark hm l.number blocks
      cases m with
      | opens kind => exact closesAll_cons hl (ih h)
      | elif =>
        rw [Mark.nesting, branchFault_eq_nil h.1] at hl
        exact closesAll_cons hl (ih h.2)
      | otherwise =>
        rw [Mark.nesting, branchFault_eq_nil h.1] at hl
        exact closesAll_cons hl (ih h.2)
      | closes kind =>
        rw [Mark.nesting, closeBlock_eq h.1] at hl
        have hrest := h.2
        rw [← List.map_tail] at hrest
        exact closesAll_cons hl (ih hrest)

end Stack

end Action

theorem faults_blockPhrase (refs : References) (st : Statement) :
    ∀ f ∈ st.faults refs, f.blockPhrase? = none := by
  intro f hf
  rcases List.mem_append.1 hf with hf | hf
  · cases st with
    | unrecognized line =>
      obtain rfl := List.mem_singleton.1 hf
      rfl
    | selectInstances _ _ c _ | createObject _ c | generate _ c _ _ =>
      simp only [] at hf
      split at hf
      · cases hf
      · obtain rfl := List.mem_singleton.1 hf
        rfl
    | _ => cases hf
  · obtain ⟨r, -, rfl⟩ := List.mem_map.1 hf
    rfl

theorem nesting_blockPhrase (st : Statement) (line : Nat) (blocks : List OpenBlock) :
    ∀ f ∈ (st.nesting line blocks).1, f.blockPhrase? ≠ none := by
  intro f hf
  cases hm : st.mark? with
  | none =>
    rw [Statement.nesting_plain (Statement.mark?_eq_none_iff.1 hm)] at hf
    cases hf
  | some m =>
    rw [Statement.nesting_of_mark hm] at hf
    cases m with
    | opens kind => cases hf
    | elif | otherwise =>
      simp only [Mark.nesting, branchFault] at hf
      split at hf
      · cases hf
      · obtain rfl := List.mem_singleton.1 hf
        simp [Fault.blockPhrase?]
    | closes kind =>
      cases blocks with
      | nil =>
        obtain rfl := List.mem_singleton.1 hf
        simp [Fault.blockPhrase?]
      | cons b outer =>
        simp only [Mark.nesting, closeBlock] at hf
        split at hf
        · cases hf
        · obtain rfl := List.mem_singleton.1 hf
          simp [Fault.blockPhrase?]

/-- Only the faults of blocks say that the lines are not well nested. -/
theorem closesAll_iff_lineFindings {refs : References} {path : String} {blocks : List OpenBlock}
    {ls : List BodyLine} :
    ClosesAll blocks ls ↔
      ∀ f ∈ lineFindings refs path blocks ls, f.fault.blockPhrase? = none := by
  induction ls generalizing blocks with
  | nil =>
    rw [ClosesAll, lineFindings, List.forall_mem_map]
    constructor
    · rintro rfl b ⟨⟩
    · intro h
      rw [List.eq_nil_iff_forall_not_mem]
      intro b hb
      cases h b (List.mem_reverse.2 hb)
  | cons l ls ih =>
    rw [ClosesAll, lineFindings, ih, List.forall_mem_append, List.forall_mem_map,
      List.forall_mem_append]
    refine and_congr_left fun _ => ?_
    constructor
    · intro h
      rw [h]
      exact ⟨faults_blockPhrase refs l.statement, List.forall_mem_nil _⟩
    · rintro ⟨-, h⟩
      rw [List.eq_nil_iff_forall_not_mem]
      intro f hf
      exact nesting_blockPhrase l.statement l.number blocks f hf (h f hf)

/-- The check of an action text finds no block out of place exactly when its marks can be derived
from the grammar of blocks; what it finds of this kind, it says in its message. -/
theorem actionFindings_nested_iff (refs : References) (path body : String) :
    ((∀ f ∈ actionFindings refs path body, f.fault.blockPhrase? = none) ↔
        Derives .body (marks (parseBody body))) ∧
      ∀ f ∈ actionFindings refs path body, ∀ phrase ∈ f.fault.blockPhrase?,
        ∃ before after, f.fault.message = before ++ phrase ++ after := by
  refine ⟨?_, fun f _ phrase h => Fault.message_blockPhrase h⟩
  rw [actionFindings, ← closesAll_iff_lineFindings]
  constructor
  · intro h
    obtain ⟨t, ht⟩ := forest_of_closesAll h
    rw [ht]
    exact t.derives
  · intro h
    have hnone : Settles [] [] := rfl
    have hsettles := h.settles BlockSymbol.noConfusion hnone
    rw [List.append_nil] at hsettles
    exact closesAll_of_settles hsettles

end ExecutableUml
