import ExecutableUml.Action.Layout

/-! The level of the layout and the height of its stack of blocks are the same number, through every
emission, also those that close more blocks than are open. So the lines of a layout are those of the
stack alone. -/

namespace ExecutableUml.Action

/-- The layout with its levels read off the stack, and the count of statements as a mark. -/
def stackLayout (blocks : Blocks) (ran : Bool) : List Emission → List Line
  | [] => closeAll blocks.length blocks ++ if ran then [] else [⟨0, .simple, "pass"⟩]
  | e :: es =>
    e.lines blocks.length blocks ++ stackLayout (e.after blocks) (ran || e.isExecutable) es

namespace Emission

theorem levelAfter_length (e : Emission) (blocks : Blocks) :
    e.levelAfter blocks.length = (e.after blocks).length := by
  cases e with
  | comment text => rfl
  | simple text => exact blocks.length_filled.symm
  | guarded call failure => exact blocks.length_filled.symm
  | openBlock header => exact congrArg (· + 1) blocks.length_filled.symm
  | nextBranch header => exact congrArg (· + 1) List.length_tail.symm
  | closeBlock => exact List.length_tail.symm

end Emission

namespace Emitter

def IsLevel (s : Emitter) : Prop := s.level = s.blocks.length

theorem isLevel_start : start.IsLevel := rfl

theorem IsLevel.step {s : Emitter} (h : s.IsLevel) (e : Emission) : (s.step e).IsLevel := by
  unfold IsLevel Emitter.step
  rw [h, e.levelAfter_length]

theorem ran_step (s : Emitter) (e : Emission) :
    ((s.step e).executable != 0) = (s.executable != 0 || e.isExecutable) := by
  unfold Emitter.step
  cases e.isExecutable with
  | false => simp
  | true => simp

end Emitter

theorem layoutFrom_eq_stackLayout (es : List Emission) {s : Emitter} (h : s.IsLevel) :
    layoutFrom s es = stackLayout s.blocks (s.executable != 0) es := by
  induction es generalizing s with
  | nil =>
    rw [layoutFrom, stackLayout, h]
    by_cases hrun : s.executable = 0
    · simp [hrun]
    · simp [hrun]
  | cons e es ih =>
    rw [layoutFrom, stackLayout, ih (h.step e), Emitter.ran_step, Emitter.lines, h]
    rfl

theorem layout_eq_stackLayout (es : List Emission) : layout es = stackLayout [] false es :=
  layoutFrom_eq_stackLayout es Emitter.isLevel_start

end ExecutableUml.Action
