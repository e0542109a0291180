import ExecutableUml.Action.Body
import ExecutableUml.Proofs.Action.BlockStack

/-! Every body of action text, well nested or not, is laid out with legal indentation. The stack of
open blocks and the last line of code determine each other: all blocks but the innermost have a
statement, and the innermost has none exactly when the last line of code is its header. -/

namespace ExecutableUml.Action

def Line.isCode (l : Line) : Bool := l.kind != .comment

def codeLines (ls : List Line) : List Line := ls.filter Line.isCode

/-- The indentation that a reader of the code insists on. -/
structure IndentationLaw (ls : List Line) : Prop where
  first : ∃ l, ls[0]? = some l ∧ l.level = 0
  header : ∀ i a, ls[i]? = some a → a.kind = .header →
    ∃ b, ls[i + 1]? = some b ∧ b.level = a.level + 1
  other : ∀ i a b, ls[i]? = some a → a.kind ≠ .header → ls[i + 1]? = some b → b.level ≤ a.level

def MayFollow : Option Line → Line → Prop
  | none, l => l.level = 0
  | some p, l => if p.kind = .header then l.level = p.level + 1 else l.level ≤ p.level

def Follows : Option Line → List Line → Prop
  | _, [] => True
  | p, l :: ls => MayFollow p l ∧ Follows (some l) ls

def lastOf : Option Line → List Line → Option Line
  | p, [] => p
  | _, l :: ls => lastOf (some l) ls

theorem follows_append {p : Option Line} {a b : List Line} :
    Follows p (a ++ b) ↔ Follows p a ∧ Follows (lastOf p a) b := by
  induction a generalizing p with
  | nil => simp [Follows, lastOf]
  | cons l a ih => simp only [List.cons_append, Follows, lastOf, ih, and_assoc]

theorem lastOf_append (p : Option Line) (a b : List Line) :
    lastOf p (a ++ b) = lastOf (lastOf p a) b := by
  induction a generalizing p with
  | nil => rfl
  | cons l a ih => exact ih (some l)

theorem lastOf_isSome {p : Option Line} (h : p.isSome = true) (ls : List Line) :
    (lastOf p ls).isSome = true := by
  induction ls generalizing p with
  | nil => exact h
  | cons l ls ih => exact ih rfl

theorem mayFollow_of_follows {p : Option Line} {ls : List Line} (h : Follows p ls) {i : Nat}
    {a b : Line} (ha : ls[i]? = some a) (hb : ls[i + 1]? = some b) : MayFollow (some a) b := by
  induction ls generalizing p i with
  | nil => simp at ha
  | cons l ls ih =>
    cases i with
    | zero =>
      cases ls with
      | nil => simp at hb
      | cons m ls =>
        simp only [List.getElem?_cons_zero, Option.some.injEq, Nat.zero_add,
          List.getElem?_cons_succ] at ha hb
        subst ha hb
        exact h.2.1
    | succ i => exact ih h.2 (by simpa using ha) (by simpa using hb)

theorem lastOf_of_getElem {p : Option Line} {ls : List Line} {i : Nat} {a : Line}
    (ha : ls[i]? = some a) (hend : ls[i + 1]? = none) : lastOf p ls = some a := by
  induction ls generalizing p i with
  | nil => simp at ha
  | cons l ls ih =>
    cases i with
    | zero =>
      have hnil : ls = [] := by simpa using hend
      subst hnil
      simpa [lastOf] using ha
    | succ i => exact ih (by simpa using ha) (by simpa using hend)

theorem indentationLaw_of_follows {ls : List Line} (h : Follows none ls) {l : Line}
    (hlast : lastOf none ls = some l) (hl : l.kind ≠ .header) : IndentationLaw ls where
  first := by
    cases ls with
    | nil => simp [lastOf] at hlast
    | cons a ls => exact ⟨a, rfl, h.1⟩
  header := by
    intro i a ha hk
    cases hb : ls[i + 1]? with
    | none =>
      rw [lastOf_of_getElem ha hb] at hlast
      cases hlast
      exact absurd hk hl
    | some b =>
      have hm := mayFollow_of_follows h ha hb
      rw [MayFollow, if_pos hk] at hm
      exact ⟨b, rfl, hm⟩
  other := by
    intro i a b ha hk hb
    have hm := mayFollow_of_follows h ha hb
    rwa [MayFollow, if_neg hk] at hm

/-- The open blocks and the last line of code, in step with each other. -/
inductive InStep : Blocks → Option Line → Prop where
  | start : InStep [] none
  | statement {blocks : Blocks} {l : Line} (filled : ∀ b ∈ blocks, b = true)
      (kind : l.kind ≠ .header) (level : blocks.length ≤ l.level) : InStep blocks (some l)
  | branch {outer : Blocks} {l : Line} (filled : ∀ b ∈ outer, b = true)
      (kind : l.kind = .header) (level : l.level = outer.length) : InStep (false :: outer) (some l)

namespace InStep

variable {blocks : Blocks} {p : Option Line}

theorem mayFollow (h : InStep blocks p) {l : Line} (hl : l.level = blocks.length) :
    MayFollow p l := by
  cases h with
  | start => exact hl
  | statement filled kind level =>
    rw [MayFollow, if_neg kind]
    omega
  | branch filled kind level =>
    rw [MayFollow, if_pos kind, hl, level]
    rfl

theorem filled (h : InStep blocks p) : ∀ b ∈ blocks.filled, b = true := by
  cases h with
  | start => simp [Blocks.filled]
  | statement filled kind level =>
    cases blocks with
    | nil => simp [Blocks.filled]
    | cons b outer =>
      intro b' hb
      rcases List.mem_cons.1 hb with rfl | hb
      · rfl
      · exact filled b' (List.mem_cons_of_mem b hb)
  | branch filled kind level =>
    intro b hb
    rcases List.mem_cons.1 hb with rfl | hb
    · rfl
    · exact filled b hb

/-- A statement fills the innermost block. -/
theorem emit (h : InStep blocks p) {l : Line} (hk : l.kind ≠ .header)
    (hl : blocks.length ≤ l.level) : InStep blocks.filled (some l) :=
  .statement h.filled hk (by rwa [Blocks.length_filled])

/-- What the end of a block leaves: a filled block, whatever it had before. -/
theorem fill (h : InStep blocks p) :
    Follows p (blocks.filler blocks.length) ∧
      InStep blocks.filled (lastOf p (blocks.filler blocks.length)) := by
  cases h with
  | start => exact ⟨trivial, .start⟩
  | @statement _ l filled kind level =>
    cases blocks with
    | nil => exact ⟨trivial, .statement filled kind level⟩
    | cons b outer =>
      have hb := filled b List.mem_cons_self
      subst hb
      exact ⟨trivial, .statement filled kind level⟩
  | @branch outer l filled kind level =>
    have h : InStep (false :: outer) (some l) := .branch filled kind level
    exact ⟨⟨h.mayFollow rfl, trivial⟩, h.emit (by simp) (by simp)⟩

theorem pop (h : InStep blocks.filled p) : InStep blocks.tail p := by
  cases blocks with
  | nil => exact h
  | cons b outer =>
    cases h with
    | statement filled kind level =>
      refine .statement (fun b' hb => filled b' (List.mem_cons_of_mem true hb)) kind ?_
      rw [Blocks.length_filled, List.length_cons] at level
      exact Nat.le_of_succ_le level

/-- The end of a block writes what the block lacks and uncovers the block around it. -/
theorem close (h : InStep blocks p) :
    Follows p (blocks.filler blocks.length) ∧
      InStep blocks.tail (lastOf p (blocks.filler blocks.length)) :=
  ⟨h.fill.1, h.fill.2.pop⟩

theorem tail_filled (h : InStep blocks p) : ∀ b ∈ blocks.tail, b = true := by
  intro b hb
  refine h.filled b ?_
  cases blocks with
  | nil => exact hb
  | cons c outer => exact List.mem_cons_of_mem true hb

end InStep

theorem codeLines_append (a b : List Line) : codeLines (a ++ b) = codeLines a ++ codeLines b :=
  List.filter_append ..

theorem codeLines_filler (level : Nat) (blocks : Blocks) :
    codeLines (blocks.filler level) = blocks.filler level := by
  rcases blocks with _ | ⟨_ | _, outer⟩ <;> rfl

/-- One emission keeps the stack and the lines in step. -/
theorem Emission.inStep {blocks : Blocks} {p : Option Line} (h : InStep blocks p) (e : Emission) :
    Follows p (codeLines (e.lines blocks.length blocks)) ∧
      InStep (e.after blocks) (lastOf p (codeLines (e.lines blocks.length blocks))) := by
  cases e with
  | comment text => exact ⟨trivial, h⟩
  | simple text => exact ⟨⟨h.mayFollow rfl, trivial⟩, h.emit (by simp) (Nat.le_refl _)⟩
  | guarded call failure =>
    refine ⟨⟨h.mayFollow rfl, ?_, ?_, ?_, trivial⟩, h.emit (by simp) (Nat.le_succ _)⟩
    · simp [MayFollow]
    · simp [MayFollow]
    · simp [MayFollow]
  | openBlock header =>
    refine ⟨⟨h.mayFollow rfl, trivial⟩, .branch h.filled rfl ?_⟩
    exact (Blocks.length_filled blocks).symm
  | nextBranch header =>
    obtain ⟨hf, hin⟩ := h.close
    rw [lines, codeLines_append, codeLines_filler, follows_append, lastOf_append]
    exact ⟨⟨hf, hin.mayFollow List.length_tail.symm, trivial⟩,
      .branch h.tail_filled rfl List.length_tail.symm⟩
  | closeBlock =>
    rw [lines, codeLines_filler]
    exact h.close

theorem Emission.lastOf_executable {e : Emission} (he : e.isExecutable = true) (blocks : Blocks)
    (p : Option Line) : (lastOf p (codeLines (e.lines blocks.length blocks))).isSome = true := by
  cases e with
  | simple text => rfl
  | guarded call failure => rfl
  | openBlock header => rfl
  | _ => cases he

theorem closeAll_inStep {blocks : Blocks} {p : Option Line} (h : InStep blocks p) :
    Follows p (codeLines (closeAll blocks.length blocks)) ∧
      InStep [] (lastOf p (codeLines (closeAll blocks.length blocks))) := by
  induction blocks generalizing p with
  | nil => exact ⟨trivial, h⟩
  | cons b outer ih =>
    obtain ⟨hf, hin⟩ := h.close
    obtain ⟨hf', hin'⟩ := ih hin
    rw [closeAll, codeLines_append, codeLines_filler, follows_append, lastOf_append]
    exact ⟨⟨hf, hf'⟩, hin'⟩

/-- The lines of a whole run follow each other, and the last one is no header. -/
theorem stackLayout_follows (es : List Emission) {blocks : Blocks} {p : Option Line} {ran : Bool}
    (h : InStep blocks p) (hran : ran = true → p.isSome = true) :
    Follows p (codeLines (stackLayout blocks ran es)) ∧
      ∃ l, lastOf p (codeLines (stackLayout blocks ran es)) = some l ∧ l.kind ≠ .header := by
  induction es generalizing blocks p ran with
  | nil =>
    obtain ⟨hf, hin⟩ := closeAll_inStep h
    rw [stackLayout, codeLines_append, follows_append, lastOf_append]
    cases ran with
    | false => exact ⟨⟨hf, hin.mayFollow rfl, trivial⟩, _, rfl, by simp⟩
    | true =>
      obtain ⟨l, hl⟩ := Option.isSome_iff_exists.1
        (lastOf_isSome (hran rfl) (codeLines (closeAll blocks.length blocks)))
      refine ⟨⟨hf, trivial⟩, l, hl, ?_⟩
      rw [hl] at hin
      cases hin with
      | statement filled kind level => exact kind
  | cons e es ih =>
    obtain ⟨hf, hin⟩ := e.inStep h
    have hran' : (ran || e.isExecutable) = true →
        (lastOf p (codeLines (e.lines blocks.length blocks))).isSome = true := by
      intro hr
      rcases Bool.or_eq_true_iff.1 hr with hr | hr
      · exact lastOf_isSome (hran hr) _
      · exact e.lastOf_executable hr blocks p
    obtain ⟨hf', hl⟩ := ih hin hran'
    rw [stackLayout, codeLines_append, follows_append, lastOf_append]
    exact ⟨⟨hf, hf'⟩, hl⟩

/-- The lines of code of any body text obey the law of indentation. -/
theorem compileBody_indentation (s : Scope) (origins : List (String × String)) (body : String) :
    IndentationLaw (codeLines (compileBody s origins body).lines) := by
  obtain ⟨hf, l, hl, hk⟩ := stackLayout_follows (s.body origins (parseBody body)).1 .start
    fun h : false = true => Bool.noConfusion h
  rw [← layout_eq_stackLayout] at hf hl
  exact indentationLaw_of_follows hf hl hk

end ExecutableUml.Action
