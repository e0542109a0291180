import ExecutableUml.Proofs.Document.DeterministicMachines
import ExecutableUml.Proofs.Python.Dispatch

/-! The states that the machine of a valid document can be in. Every row of its table is for a
declared state and leads to one, so events lead from declared states to declared states only. The
state that it starts in may be the default value of an attribute, though, and that text is not
checked. -/

namespace ExecutableUml

open Text Document

namespace Python.TransitionRow

/-- Rows that are taken over are for declared states anyway. -/
theorem state_declared {m : StateMachine} (hm : m.Deterministic) {row : TransitionRow}
    (h : row ∈ ofMachine m) : m.hasState row.state = true := by
  rcases List.mem_append.1 h with h | h
  · rw [state_of_mem_explicit h]
    exact hm.source_declared row.transition (transition_mem_explicit h)
  · obtain ⟨origin, -, halias⟩ := List.mem_filterMap.1 (mem_of_mem_distinctFrom h)
    rw [aliasRow_eq] at halias
    obtain ⟨base, hbase, rfl⟩ := Option.map_eq_some_iff.1 halias
    exact (Option.filter_eq_some_iff.1 hbase).2

/-- One event leads from a declared state to a declared state, and from another state nowhere. -/
theorem hasState_dispatch {m : StateMachine} (hm : m.Deterministic) (admits : String → Bool)
    (state event : String) :
    m.hasState ((dispatch (ofMachine m) admits state event).stateAfter state) =
      m.hasState state := by
  rw [dispatch]
  cases hrow : assigned (ofMachine m) (state, event) with
  | none => rfl
  | some row =>
    obtain ⟨hmem, hkey⟩ := mem_of_assigned hrow
    have hstate : m.hasState state = true := by
      rw [← (Prod.mk.inj hkey).1]
      exact state_declared hm hmem
    have htarget := hm.target_declared row.transition (transition_mem_ofMachine hmem)
    rw [Option.map_some, Option.getD_some, outcome]
    split
    · rw [Outcome.stateAfter]
      split
      · rfl
      · rw [htarget, hstate]
    · rfl

theorem hasState_run {m : StateMachine} (hm : m.Deterministic) (state : String)
    (occurrences : List Occurrence) :
    m.hasState (run (ofMachine m) state occurrences) = m.hasState state := by
  induction occurrences generalizing state with
  | nil => rfl
  | cons o occurrences ih =>
    rw [run, List.foldl_cons]
    exact (ih _).trans (hasState_dispatch hm o.admits state o.event)

end Python.TransitionRow

namespace Document

open Python.TransitionRow

def DeclaresState (entry : Json) (name : String) : Prop :=
  ∃ row ∈ items entry "states", text row ["state_name"] = some name

/-- A default value for the state, if there is one, names a state that the class lists. -/
def DefaultDeclared (entry : Json) : Prop :=
  ∀ state, persistedState entry = some state → DeclaresState entry state

section Valid

variable {doc : Json} (h : structureFindings doc = []) {entry : Json} (he : entry ∈ classes doc)
  {events : List Event} {owner : ClassId} {m : StateMachine}
  (hm : StateMachine.ofEntry events owner entry = some m)
include h he hm

theorem hasState_iff_declares (name : String) :
    m.hasState name = true ↔ DeclaresState entry name := by
  constructor
  · intro hname
    obtain ⟨s, hs, hsame⟩ := List.any_eq_true.1 hname
    rw [StateMachine.ofEntry] at hm
    split at hm
    · cases hm
    · cases hm
      obtain ⟨row, hrow, hstate⟩ := List.mem_filterMap.1 (mem_of_mem_distinctFrom hs)
      rw [State.ofRow] at hstate
      obtain ⟨found, hfound, hstate⟩ := Option.bind_eq_some_iff.1 hstate
      cases hstate
      exact ⟨row, (List.mem_filter.1 hrow).1, (eq_of_beq hsame) ▸ hfound⟩
  · rintro ⟨row, hrow, hname⟩
    exact StateMachine.hasState_of_row hm (stateEntries_eq h he ▸ hrow) hname

/-- Without a default value the machine starts in the state that is declared first. -/
theorem initialState_eq :
    ∃ first ∈ m.states, m.initialState = (persistedState entry).getD first.name := by
  have hm' := hm
  rw [StateMachine.ofEntry] at hm'
  split at hm'
  · cases hm'
  · rename_i hrows
    cases hm'
    obtain ⟨row, hrow⟩ := List.exists_mem_of_ne_nil _ (mt List.isEmpty_iff.2 hrows)
    obtain ⟨-, name, hname⟩ := state_texts h he (List.mem_filter.1 hrow).1
    obtain ⟨s, hs, -⟩ := List.any_eq_true.1 (StateMachine.hasState_of_row hm hrow hname)
    obtain ⟨first, rest, hstates⟩ := List.exists_cons_of_ne_nil (List.ne_nil_of_mem hs)
    refine ⟨first, hstates ▸ List.mem_cons_self, ?_⟩
    simp only at hstates
    rw [hstates]
    cases persistedState entry <;> rfl

theorem initialState_declared_iff :
    m.hasState m.initialState = true ↔ DefaultDeclared entry := by
  obtain ⟨first, hfirst, hinitial⟩ := initialState_eq h he hm
  cases hstate : persistedState entry with
  | none =>
    rw [hinitial, hstate]
    have hdeclared : m.hasState first.name = true :=
      List.any_eq_true.2 ⟨first, hfirst, beq_self_eq_true _⟩
    refine iff_of_true hdeclared fun state hsome => ?_
    rw [hstate] at hsome
    cases hsome
  | some state =>
    rw [hinitial, hstate, Option.getD_some, hasState_iff_declares h he hm, DefaultDeclared, hstate]
    simp only [Option.some.injEq, forall_eq']

end Valid

/-- The machine of a valid document starts in a declared state, and so stays in declared states,
exactly if the default value for its state is one. Events never change whether its state is
declared. -/
theorem valid_machine_declared_iff (doc : Json) (h : issues doc = []) (i : Nat) (c : Class)
    (hc : (Model.ofDocument doc).classes[i]? = some c) (m : StateMachine)
    (hm : c.stateMachine = some m) :
    ∃ entry, (classes doc)[i]? = some entry ∧
      (m.hasState m.initialState = true ↔ DefaultDeclared entry) ∧
      ((∀ occurrences, m.hasState (run (ofMachine m) m.initialState occurrences) = true) ↔
        DefaultDeclared entry) ∧
      ∀ state occurrences,
        m.hasState (run (ofMachine m) state occurrences) = m.hasState state := by
  obtain ⟨-, hs, -⟩ := findings_eq_nil.1 (issues_eq_nil.1 h)
  obtain ⟨pyNames, hclasses⟩ := Model.classes_ofDocument doc
  rw [hclasses, List.getElem?_mapIdx] at hc
  obtain ⟨entry, hentry, rfl⟩ := Option.map_eq_some_iff.1 hc
  rw [classEntries_eq hs] at hentry
  have he : entry ∈ classes doc := List.mem_of_getElem? hentry
  have hinitial := initialState_declared_iff hs he hm
  have hrun := hasState_run (machine_deterministic hs he hm)
  refine ⟨entry, hentry, hinitial, ?_, hrun⟩
  rw [← hinitial]
  simp only [hrun, forall_const]

def lampDocument (start : String) : Json := .object [
  ("events", .array [.object [("class_id", .string "LA"), ("event_name", .string "Press")]]),
  ("model", .array [.object [("KL", .string "LA"),
    ("attributes", .array [.object [("attribute_name", .string "currentState"),
      ("data_type", .string "string"), ("default_value", .string start)]]),
    ("class_id", .string "1"), ("class_name", .string "Lamp"),
    ("states", .array [
      .object [("next_state", .string "On"), ("state_event", .string "Press"),
        ("state_name", .string "Off")],
      .object [("state_name", .string "On")]])]])]

theorem lamp_declared :
    issues (lampDocument "On") = [] ∧
    ∃ c, (Model.ofDocument (lampDocument "On")).classes[0]? = some c ∧
      ∃ m, c.stateMachine = some m ∧ m.initialState = "On" ∧
        ∀ occurrences, m.hasState (run (ofMachine m) m.initialState occurrences) = true := by
  have h : issues (lampDocument "On") = [] := by decide +kernel
  have hstart : (Model.ofDocument (lampDocument "On")).classes[0]?.bind (fun c =>
      c.stateMachine.map fun m => (m.initialState, m.hasState m.initialState)) =
      some ("On", true) := by decide +kernel
  obtain ⟨c, hc, hstart⟩ := Option.bind_eq_some_iff.1 hstart
  obtain ⟨m, hm, hstart⟩ := Option.map_eq_some_iff.1 hstart
  obtain ⟨hon, hdeclared⟩ := Prod.mk.inj hstart
  obtain ⟨_, -, hinitial, hruns, -⟩ := valid_machine_declared_iff _ h 0 c hc m hm
  exact ⟨h, c, hc, m, hm, hon, hruns.2 (hinitial.1 hdeclared)⟩

/-- A default value that names no state is accepted, and the lamp starts there. -/
theorem lamp_starts_undeclared :
    issues (lampDocument "Broken") = [] ∧
    ∃ c, (Model.ofDocument (lampDocument "Broken")).classes[0]? = some c ∧
      ∃ m, c.stateMachine = some m ∧ m.hasState m.initialState = false := by
  have h : issues (lampDocument "Broken") = [] := by decide +kernel
  have hstart : (Model.ofDocument (lampDocument "Broken")).classes[0]?.bind (fun c =>
      c.stateMachine.map fun m => m.hasState m.initialState) = some false := by decide +kernel
  obtain ⟨c, hc, hstart⟩ := Option.bind_eq_some_iff.1 hstart
  obtain ⟨m, hm, hstart⟩ := Option.map_eq_some_iff.1 hstart
  exact ⟨h, c, hc, m, hm, hstart⟩

end Document

end ExecutableUml
