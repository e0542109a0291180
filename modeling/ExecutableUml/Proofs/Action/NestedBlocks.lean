import ExecutableUml.Proofs.Action.BlockTree
import ExecutableUml.Validation.Actions

/-! Action text without findings is well nested: its lines are those of a tree of blocks. The check
only keeps a stack of the kinds of blocks that are open; what follows a stack without a finding is,
for each open block, a forest and the end of that block. -/

namespace ExecutableUml

open ExecutableUml.Action

/-- The lines close every block that is open or that they open, and no mark of a block is out of
place. -/
def ClosesAll (blocks : List OpenBlock) : List BodyLine → Prop
  | [] => blocks = []
  | l :: ls =>
    (l.statement.nesting l.number blocks).1 = [] ∧
      ClosesAll (l.statement.nesting l.number blocks).2 ls

theorem closesAll_of_lineFindings {refs : References} {path : String} {blocks : List OpenBlock}
    {ls : List BodyLine} (h : lineFindings refs path blocks ls = []) : ClosesAll blocks ls := by
  induction ls generalizing blocks with
  | nil => simpa [lineFindings, ClosesAll] using h
  | cons l ls ih =>
    simp only [lineFindings, List.append_eq_nil_iff, List.map_eq_nil_iff] at h
    obtain ⟨⟨-, hnesting⟩, hrest⟩ := h
    exact ⟨hnesting, ih hrest⟩

/-- A branch mark without a fault stands in a choice. -/
theorem branch_of_branchFault {label : String} {blocks : List OpenBlock}
    (h : branchFault label blocks = []) :
    ∃ b outer, blocks = b :: outer ∧ b.block = .branch := by
  cases blocks with
  | nil => simp [branchFault] at h
  | cons b outer =>
    by_cases hb : b.block = .branch
    · exact ⟨b, outer, rfl, hb⟩
    · simp [branchFault, hb] at h

/-- An end without a fault ends the innermost block, which is one of its kind. -/
theorem block_of_closeBlock {closing : Block} {blocks : List OpenBlock}
    (h : (closeBlock closing blocks).1 = []) :
    ∃ b outer, blocks = b :: outer ∧ b.block = closing := by
  cases blocks with
  | nil => simp [closeBlock] at h
  | cons b outer =>
    by_cases hb : b.block = closing
    · exact ⟨b, outer, rfl, hb⟩
    · simp [closeBlock, hb] at h

namespace Action

theorem Statement.nesting_plain {st : Statement} (h : st.isBlockMark = false) (line : Nat)
    (blocks : List OpenBlock) : st.nesting line blocks = ([], blocks) := by
  cases st with
  | ifBegin | elseIf | elseBegin | ifEnd | forEach | forEnd | whileBegin | whileEnd => cases h
  | _ => rfl

def loopCloser? : Block → Option Statement
  | .branch => none
  | .forEach => some .forEnd
  | .loop => some .whileEnd

/-- What completes the open blocks, innermost first: the rest of each and its end. -/
inductive Completes : List Block → List BodyLine → Prop where
  | body (t : Forest) : Completes [] t.lines
  | choice {outer : List Block} {ls : List BodyLine} (t : Forest) (more : Branches)
      (h : Completes outer ls) : Completes (.branch :: outer) (t.lines ++ (more.lines ++ ls))
  | loop {kind : Block} {outer : List Block} {ls : List BodyLine} (t : Forest) (closer : BodyLine)
      (hc : loopCloser? kind = some closer.statement) (h : Completes outer ls) :
      Completes (kind :: outer) (t.lines ++ closer :: ls)

namespace Completes

variable {kinds outer : List Block} {ls : List BodyLine}

/-- Lines that make a forest longer in front may stand in front of the rest. -/
theorem prefixed (h : Completes kinds ls) {grow : Forest → Forest} {front : List BodyLine}
    (hgrow : ∀ t, (grow t).lines = front ++ t.lines) : Completes kinds (front ++ ls) := by
  cases h with
  | body t =>
    rw [← hgrow]
    exact .body (grow t)
  | choice t more h =>
    rw [← List.append_assoc, ← hgrow]
    exact .choice (grow t) more h
  | loop t closer hc h =>
    rw [← List.append_assoc, ← hgrow]
    exact .loop (grow t) closer hc h

theorem plain (h : Completes kinds ls) {l : BodyLine} (hl : l.statement.isBlockMark = false) :
    Completes kinds (l :: ls) := by
  have hgrow : ∀ rest, (Forest.plain l hl rest).lines = [l] ++ rest.lines := fun _ => rfl
  exact h.prefixed hgrow

theorem openChoice (h : Completes (.branch :: outer) ls) {l : BodyLine}
    (hl : l.statement.isIf = true) : Completes outer (l :: ls) := by
  cases h with
  | choice t more h =>
    have hgrow : ∀ rest, (Forest.choice l hl t more rest).lines =
        l :: (t.lines ++ more.lines) ++ rest.lines := by
      intro rest
      simp [Forest.lines]
    simpa using h.prefixed hgrow
  | loop t closer hc h => cases hc

theorem openLoop {kind : Block} (h : Completes (kind :: outer) ls) {l : BodyLine}
    (hl : l.statement.loopEnd? = loopCloser? kind) (hkind : kind ≠ .branch) :
    Completes outer (l :: ls) := by
  cases h with
  | choice t more h => exact absurd rfl hkind
  | loop t closer hc h =>
    have hgrow : ∀ rest, (Forest.loop l t closer (hl.trans hc) rest).lines =
        l :: (t.lines ++ [closer]) ++ rest.lines := by
      intro rest
      simp [Forest.lines]
    simpa using h.prefixed hgrow

theorem nextBranch (h : Completes (.branch :: outer) ls) {l : BodyLine}
    (hl : l.statement.isNextBranch = true) : Completes (.branch :: outer) (l :: ls) := by
  cases h with
  | choice t more h =>
    have hnext := Completes.choice .nil (.next l hl t more) h
    simpa [Forest.lines, Branches.lines] using hnext
  | loop t closer hc h => cases hc

theorem closeChoice (h : Completes outer ls) {l : BodyLine} (hl : l.statement = .ifEnd) :
    Completes (.branch :: outer) (l :: ls) :=
  .choice .nil (.close l hl) h

theorem closeLoop {kind : Block} (h : Completes outer ls) {l : BodyLine}
    (hl : loopCloser? kind = some l.statement) : Completes (kind :: outer) (l :: ls) :=
  .loop .nil l hl h

end Completes

/-- The induction is on the lines; the stack says what the rest of them has to complete. -/
theorem completes_of_closesAll {ls : List BodyLine} {blocks : List OpenBlock}
    (h : ClosesAll blocks ls) : Completes (blocks.map OpenBlock.block) ls := by
  induction ls generalizing blocks with
  | nil =>
    have hnone : blocks = [] := h
    subst hnone
    exact .body .nil
  | cons l ls ih =>
    obtain ⟨hfault, hrest⟩ := h
    have hls := ih hrest
    cases hmark : l.statement.isBlockMark with
    | false =>
      rw [Statement.nesting_plain hmark] at hls
      exact hls.plain hmark
    | true =>
      cases hst : l.statement with
      | ifBegin c =>
        rw [hst] at hls
        exact hls.openChoice (by rw [hst]; rfl)
      | forEach var collection =>
        rw [hst] at hls
        exact hls.openLoop (by rw [hst]; rfl) (by simp)
      | whileBegin c =>
        rw [hst] at hls
        exact hls.openLoop (by rw [hst]; rfl) (by simp)
      | elseIf c =>
        rw [hst] at hls hfault
        obtain ⟨b, outer, rfl, hb⟩ := branch_of_branchFault hfault
        rw [List.map_cons, hb]
        simp only [Statement.nesting, List.map_cons, hb] at hls
        exact hls.nextBranch (by rw [hst]; rfl)
      | elseBegin =>
        rw [hst] at hls hfault
        obtain ⟨b, outer, rfl, hb⟩ := branch_of_branchFault hfault
        rw [List.map_cons, hb]
        simp only [Statement.nesting, List.map_cons, hb] at hls
        exact hls.nextBranch (by rw [hst]; rfl)
      | ifEnd =>
        rw [hst] at hls hfault
        obtain ⟨b, outer, rfl, hb⟩ := block_of_closeBlock hfault
        rw [List.map_cons, hb]
        exact Completes.closeChoice hls hst
      | forEnd =>
        rw [hst] at hls hfault
        obtain ⟨b, outer, rfl, hb⟩ := block_of_closeBlock hfault
        rw [List.map_cons, hb]
        exact Completes.closeLoop hls (by rw [hst]; rfl)
      | whileEnd =>
        rw [hst] at hls hfault
        obtain ⟨b, outer, rfl, hb⟩ := block_of_closeBlock hfault
        rw [List.map_cons, hb]
        exact Completes.closeLoop hls (by rw [hst]; rfl)
      | _ =>
        rw [hst] at hmark
        cases hmark

theorem forest_of_closesAll {ls : List BodyLine} (h : ClosesAll [] ls) :
    ∃ t : Forest, ls = t.lines := by
  have hcomplete := completes_of_closesAll h
  rw [List.map_nil] at hcomplete
  cases hcomplete with
  | body t => exact ⟨t, rfl⟩

/-- Action text without findings is the text of a tree of blocks. -/
theorem forest_of_actionFindings {refs : References} {path body : String}
    (h : actionFindings refs path body = []) : ∃ t : Forest, parseBody body = t.lines :=
  forest_of_closesAll (closesAll_of_lineFindings h)

end Action

end ExecutableUml
