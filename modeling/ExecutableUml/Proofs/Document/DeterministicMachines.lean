import ExecutableUml.Proofs.Document.Transitions
import ExecutableUml.Proofs.Document.Valid
import ExecutableUml.Proofs.Document.Wiring

/-! The state machines of a valid document leave nothing open. A class lists its states row by row,
and rows may repeat a state or an event; the checks make sure that all rows for one state and one
event lead to the same, so the machine has one transition for them. -/

namespace ExecutableUml

open Text Document

/-- Every state is declared once, every transition joins two declared states, and a state and an
event, also in another case, have one effect. -/
structure StateMachine.Deterministic (m : StateMachine) : Prop where
  names_nodup : (m.states.map State.name).Nodup
  source_declared : ∀ t ∈ m.transitions, m.hasState t.source = true
  target_declared : ∀ t ∈ m.transitions, m.hasState t.target = true
  triggers_nodup : (m.transitions.map fun t => (t.source, t.event)).Nodup
  same_effect : ∀ t ∈ m.transitions, ∀ u ∈ m.transitions, t.source = u.source →
    lower t.event = lower u.event → t.target = u.target ∧ t.action = u.action

namespace StateMachine

variable {events : List Event} {owner : ClassId} {entry : Json} {sm : StateMachine}
  (h : ofEntry events owner entry = some sm)
include h

theorem states_nodup : (sm.states.map State.name).Nodup := by
  simp only [ofEntry] at h
  split at h
  · cases h
  · cases h
    refine List.pairwise_map.2 ((distinct_pairwise _).imp fun hab => ?_)
    simpa using hab

theorem hasState_of_row {row : Json} {name : String} (hrow : row ∈ entries entry "states")
    (hname : text row ["state_name"] = some name) : sm.hasState name = true := by
  simp only [ofEntry] at h
  split at h
  · cases h
  · cases h
    have hstate : State.ofRow row = some ⟨(text row ["state_id"]).getD name, name⟩ := by
      rw [State.ofRow, hname]
      rfl
    have hkept : ∃ s ∈ distinct (fun (a b : State) => a.name == b.name)
        ((entries entry "states").filterMap State.ofRow), (s.name == name) = true :=
      exists_same_of_mem (fun a => beq_self_eq_true a.name)
        (List.mem_filterMap.2 ⟨row, hrow, hstate⟩)
    exact List.any_eq_true.2 hkept

/-- Two transitions of the machine differ in more than their parameters. -/
theorem transitions_differ : sm.transitions.Pairwise fun t u => t.sameEffect u = false := by
  simp only [ofEntry] at h
  split at h
  · cases h
  · cases h
    exact distinct_pairwise _

end StateMachine

namespace Document

def machineRows (entry : Json) : List StateRow :=
  (items entry "states").zipIdx.flatMap fun (row, i) => stateRows i row

/-- A transition is what the checks see of its row. -/
theorem stateRow_of_transition {events : List Event} {owner : ClassId} {row : Json}
    {t : Transition} (ht : t ∈ Transition.ofRow events owner row) (i : Nat) :
    ∃ r ∈ stateRows i row, r.state = t.source ∧ r.event = t.event ∧ r.next = t.target ∧
      r.action = t.action := by
  obtain ⟨source, hsource, signature, hsignature, hname, rfl⟩ := Transition.mem_ofRow.1 ht
  rw [stateRows, hsource]
  exact ⟨_, List.mem_filterMap.2 ⟨signature, hsignature, if_neg (by simpa using hname)⟩, rfl, rfl,
    rfl, rfl⟩

theorem machineRow_of_transition {events : List Event} {owner : ClassId} {entry : Json}
    {sm : StateMachine} (hsm : StateMachine.ofEntry events owner entry = some sm) {t : Transition}
    (ht : t ∈ sm.transitions) :
    ∃ r ∈ machineRows entry, r.state = t.source ∧ r.event = t.event ∧ r.next = t.target ∧
      r.action = t.action := by
  obtain ⟨row, hrow, htr⟩ := StateMachine.row_of_transition hsm ht
  obtain ⟨i, hz⟩ := exists_mem_zipIdx hrow
  obtain ⟨r, hr, hsame⟩ := stateRow_of_transition htr i
  exact ⟨r, List.mem_flatMap.2 ⟨(row, i), hz, hr⟩, hsame⟩

section Valid

variable {doc : Json} (h : structureFindings doc = []) {entry : Json} (he : entry ∈ classes doc)
include h he

theorem stateEntries_eq : entries entry "states" = items entry "states" :=
  List.filter_eq_self.2 fun _ hr => (state_texts h he hr).1

theorem stateFindings_of_valid {row : Json} {i : Nat} (hr : (row, i) ∈ (items entry "states").zipIdx) :
    ∃ classIndex, stateFindings (eventKeys doc) classIndex
      ((items entry "states").filterMap fun s => text s ["state_name"]) (machineRows entry) i
      row = [] := by
  simp only [structureFindings, List.append_eq_nil_iff] at h
  obtain ⟨⟨⟨-, hmachine⟩, -⟩, -⟩ := h
  obtain ⟨k, hz⟩ := exists_mem_zipIdx he
  have hf := List.flatMap_eq_nil_iff.1 hmachine (entry, k) hz
  exact ⟨k, List.flatMap_eq_nil_iff.1 hf (row, i) hr⟩

theorem nextState_declared {row : Json} {next : String} (hr : row ∈ items entry "states")
    (hnext : text row ["next_state"] = some next) :
    ∃ r ∈ items entry "states", text r ["state_name"] = some next := by
  obtain ⟨i, hz⟩ := exists_mem_zipIdx hr
  obtain ⟨-, name, hname⟩ := state_texts h he hr
  obtain ⟨k, hf⟩ := stateFindings_of_valid h he hz
  rw [stateFindings, hname, hnext] at hf
  have hdeclared := check_eq_nil.1 (List.append_eq_nil_iff.1 hf).1
  exact List.mem_filterMap.1 (List.contains_iff_mem.1 hdeclared)

/-- A row leads where the first row for its state and its event leads. -/
theorem stateRow_eq_first {r : StateRow} (hr : r ∈ machineRows entry) :
    ∃ first, (machineRows entry).find? (fun s => s.state == r.state && lower s.event == lower r.event) =
      some first ∧ first.next = r.next ∧ first.action = r.action := by
  obtain ⟨⟨row, i⟩, hz, hri⟩ := List.mem_flatMap.1 hr
  obtain ⟨-, name, hname⟩ := state_texts h he (List.fst_mem_of_mem_zipIdx hz)
  obtain ⟨k, hf⟩ := stateFindings_of_valid h he hz
  rw [stateFindings, hname] at hf
  have hconflict := List.append_eq_nil_iff.1
    (List.flatMap_eq_nil_iff.1 (List.append_eq_nil_iff.1 hf).2 r hri)
  replace hconflict := hconflict.2
  rw [conflictFindings] at hconflict
  split at hconflict
  · rename_i first hfirst
    have hsame := check_eq_nil.1 hconflict
    simp only [Bool.and_eq_true, beq_iff_eq] at hsame
    exact ⟨first, hfirst, hsame⟩
  · rename_i hnone
    have hne := List.find?_eq_none.1 hnone r hr
    simp at hne

theorem stateRows_agree {r s : StateRow} (hr : r ∈ machineRows entry) (hs : s ∈ machineRows entry)
    (hstate : r.state = s.state) (hevent : lower r.event = lower s.event) :
    r.next = s.next ∧ r.action = s.action := by
  obtain ⟨first, hfirst, hnext, haction⟩ := stateRow_eq_first h he hr
  obtain ⟨first', hfirst', hnext', haction'⟩ := stateRow_eq_first h he hs
  rw [hstate, hevent, hfirst', Option.some.injEq] at hfirst
  subst hfirst
  exact ⟨hnext.symm.trans hnext', haction.symm.trans haction'⟩

theorem machine_deterministic {events : List Event} {owner : ClassId} {sm : StateMachine}
    (hsm : StateMachine.ofEntry events owner entry = some sm) : sm.Deterministic := by
  have hsource : ∀ t ∈ sm.transitions, sm.hasState t.source = true := by
    intro t ht
    obtain ⟨row, hrow, htr⟩ := StateMachine.row_of_transition hsm ht
    obtain ⟨_, hname, _, -, -, rfl⟩ := Transition.mem_ofRow.1 htr
    exact StateMachine.hasState_of_row hsm (stateEntries_eq h he ▸ hrow) hname
  have heffect : ∀ t ∈ sm.transitions, ∀ u ∈ sm.transitions, t.source = u.source →
      lower t.event = lower u.event → t.target = u.target ∧ t.action = u.action := by
    intro t ht u hu hstate hevent
    obtain ⟨r, hr, hrs, hre, hrn, hra⟩ := machineRow_of_transition hsm ht
    obtain ⟨s, hs, hss, hse, hsn, hsa⟩ := machineRow_of_transition hsm hu
    rw [← hrn, ← hsn, ← hra, ← hsa]
    exact stateRows_agree h he hr hs (by rw [hrs, hss, hstate]) (by rw [hre, hse, hevent])
  refine ⟨StateMachine.states_nodup hsm, hsource, ?_, ?_, heffect⟩
  · intro t ht
    obtain ⟨row, hrow, htr⟩ := StateMachine.row_of_transition hsm ht
    obtain ⟨source, hname, _, -, -, rfl⟩ := Transition.mem_ofRow.1 htr
    rw [← stateEntries_eq h he] at hrow
    cases hnext : text row ["next_state"] with
    | none => exact StateMachine.hasState_of_row hsm hrow hname
    | some next =>
      rw [stateEntries_eq h he] at hrow
      obtain ⟨r, hr, hrname⟩ := nextState_declared h he hrow hnext
      exact StateMachine.hasState_of_row hsm (stateEntries_eq h he ▸ hr) hrname
  · refine List.pairwise_map.2 ((StateMachine.transitions_differ hsm).imp_of_mem ?_)
    intro t u ht hu hdiffer hsame
    obtain ⟨hstate, hevent⟩ := Prod.mk.inj hsame
    obtain ⟨htarget, haction⟩ := heffect t ht u hu hstate (congrArg lower hevent)
    simp [Transition.sameEffect, hstate, hevent, htarget, haction] at hdiffer

end Valid

/-- Whatever rows a valid document has, its machines are deterministic. -/
theorem valid_machines_deterministic (doc : Json) (h : issues doc = []) :
    ∀ c ∈ (Model.ofDocument doc).classes, ∀ m, c.stateMachine = some m → m.Deterministic := by
  obtain ⟨-, hs, -⟩ := findings_eq_nil.1 (issues_eq_nil.1 h)
  intro c hc m hm
  obtain ⟨i, hi, pyNames, rfl⟩ := Model.exists_entry_of_mem hc
  have he : (classEntries doc)[i] ∈ classes doc := (List.mem_filter.1 (List.getElem_mem hi)).1
  exact machine_deterministic hs he hm

/-- A door whose rows repeat states and events: once word for word, once in another case, and once
with parameters. -/
def doorDocument : Json := .object [
  ("events", .array [.object [("class_id", .string "DO"), ("event_name", .string "Push")]]),
  ("model", .array [.object [("KL", .string "DO"), ("class_id", .string "1"),
    ("class_name", .string "Door"),
    ("states", .array [
      .object [("next_state", .string "Open"),
        ("state_event", .array [.string "Push", .string "Push[force: integer]", .string "push"]),
        ("state_name", .string "Shut")],
      .object [("state_event", .string "PUSH"), ("state_name", .string "Open")],
      .object [("next_state", .string "Open"), ("state_event", .string "Push"),
        ("state_name", .string " Shut ")]])]])]

theorem door_machine_deterministic :
    issues doorDocument = [] ∧
    ∃ c ∈ (Model.ofDocument doorDocument).classes, ∃ m, c.stateMachine = some m ∧
      m.transitions.map (fun t => (t.source, t.event, t.target)) =
        [("Shut", "Push", "Open"), ("Shut", "push", "Open"), ("Open", "PUSH", "Open")] ∧
      m.Deterministic := by
  have h : issues doorDocument = [] := by decide +kernel
  have hmachine : (Model.ofDocument doorDocument).classes.map (fun c => c.stateMachine.map fun m =>
      m.transitions.map fun t => (t.source, t.event, t.target)) =
      [some [("Shut", "Push", "Open"), ("Shut", "push", "Open"), ("Open", "PUSH", "Open")]] := by
    decide +kernel
  obtain ⟨c, hc, hrows⟩ := List.mem_map.1 (hmachine ▸ List.mem_singleton.2 rfl)
  obtain ⟨m, hm, hrows⟩ := Option.map_eq_some_iff.1 hrows
  exact ⟨h, c, hc, m, hm, hrows, valid_machines_deterministic doorDocument h c hc m hm⟩

end Document

end ExecutableUml
