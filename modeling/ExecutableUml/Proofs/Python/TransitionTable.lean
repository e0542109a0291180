import ExecutableUml.Proofs.Distinct
import ExecutableUml.Proofs.Json.Fields
import ExecutableUml.Python.TransitionRow

/-! The rows of a transition table and the transitions of its machine: every row has a transition
of the machine, and every transition has a row for its state and event. -/

namespace ExecutableUml

/-- An event with an origin is the event of a transition that leaves it. -/
theorem StateMachine.transition_of_eventOrigin {m : StateMachine} {o : String × String}
    (h : o ∈ m.eventOrigins) : ∃ t ∈ m.transitions, o = (t.event, t.source) := by
  refine List.foldlRecOn
    (motive := fun origins => o ∈ origins → ∃ t ∈ m.transitions, o = (t.event, t.source))
    m.transitions _ (by simp) ?_ h
  intro origins ih t ht ho
  split at ho
  · exact ih ho
  · rcases Json.mem_of_mem_insertField ho with rfl | ho
    · exact ⟨t, ht, rfl⟩
    · exact ih ho

namespace Python.TransitionRow

theorem transition_mem_withMethods {taken : List String} {ts : List Transition}
    {row : TransitionRow} (h : row ∈ withMethods taken ts) : row.transition ∈ ts := by
  induction ts generalizing taken with
  | nil => simp [withMethods] at h
  | cons t ts ih =>
    rw [withMethods] at h
    split at h
    · rcases List.mem_cons.1 h with rfl | h
      · exact List.mem_cons_self
      · exact List.mem_cons_of_mem t (ih h)
    · rcases List.mem_cons.1 h with rfl | h
      · exact List.mem_cons_self
      · exact List.mem_cons_of_mem t (ih h)

theorem transition_mem_explicit {m : StateMachine} {row : TransitionRow}
    (h : row ∈ explicit m) : row.transition ∈ m.transitions :=
  mem_of_mem_distinctFrom (transition_mem_withMethods h)

theorem aliasRow_transition {m : StateMachine} {row alias_ : TransitionRow}
    (h : aliasRow m row = some alias_) : alias_.transition = row.transition := by
  obtain ⟨_, -, h⟩ := Option.bind_eq_some_iff.1 h
  obtain ⟨_, -, h⟩ := Option.bind_eq_some_iff.1 h
  cases h
  rfl

theorem transition_mem_ofMachine {m : StateMachine} {row : TransitionRow}
    (h : row ∈ ofMachine m) : row.transition ∈ m.transitions := by
  rcases List.mem_append.1 h with h | h
  · exact transition_mem_explicit h
  · obtain ⟨origin, ho, ha⟩ := List.mem_filterMap.1 (mem_of_mem_distinctFrom h)
    rw [aliasRow_transition ha]
    exact transition_mem_explicit ho

theorem row_of_mem_withMethods (taken : List String) {ts : List Transition} {t : Transition}
    (h : t ∈ ts) : ∃ row ∈ withMethods taken ts, row.state = t.source ∧ row.transition = t := by
  induction ts generalizing taken with
  | nil => simp at h
  | cons first ts ih =>
    rw [withMethods]
    split
    · rcases List.mem_cons.1 h with rfl | h
      · exact ⟨_, List.mem_cons_self, rfl, rfl⟩
      · obtain ⟨row, hrow, hr⟩ := ih _ h
        exact ⟨row, List.mem_cons_of_mem _ hrow, hr⟩
    · rcases List.mem_cons.1 h with rfl | h
      · exact ⟨_, List.mem_cons_self, rfl, rfl⟩
      · obtain ⟨row, hrow, hr⟩ := ih _ h
        exact ⟨row, List.mem_cons_of_mem _ hrow, hr⟩

theorem row_of_transition {m : StateMachine} {t : Transition} (h : t ∈ m.transitions) :
    ∃ row ∈ ofMachine m, row.state = t.source ∧ row.transition.event = t.event := by
  have hrefl : ∀ a : Transition, sameTrigger a a = true := by simp [sameTrigger]
  obtain ⟨u, hu, hsame⟩ := exists_same_of_mem hrefl h
  obtain ⟨row, hrow, hstate, rfl⟩ := row_of_mem_withMethods [] hu
  simp only [sameTrigger, Bool.and_eq_true, beq_iff_eq] at hsame
  exact ⟨row, List.mem_append_left _ hrow, hstate.trans hsame.1, hsame.2⟩

end Python.TransitionRow

/-- The rows of the transition table in the module of a class. An external entity has no table. -/
def Class.tableRows (c : Class) : List Python.TransitionRow :=
  if c.isExternal then [] else (c.stateMachine.map Python.TransitionRow.ofMachine).getD []

theorem Class.mem_tableRows {c : Class} {row : Python.TransitionRow} :
    row ∈ c.tableRows ↔
      c.isExternal = false ∧ ∃ sm, c.stateMachine = some sm ∧
        row ∈ Python.TransitionRow.ofMachine sm := by
  unfold tableRows
  split
  · rename_i hx
    simp [hx]
  · rename_i hx
    cases hsm : c.stateMachine with
    | none => simp
    | some sm => simp [hx]

end ExecutableUml
