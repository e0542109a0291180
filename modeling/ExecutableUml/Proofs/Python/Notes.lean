import ExecutableUml.Proofs.Action.Notes
import ExecutableUml.Proofs.Document.Valid
import ExecutableUml.Proofs.Python.TransitionTable
import ExecutableUml.Python.Project

/-! The notes of a project are the notes on the action texts of its model: operations, transitions
and functions. Where these texts have no faults, all notes are on members. -/

namespace ExecutableUml

open ExecutableUml.Action

/-- No action text of the model has a fault. -/
structure Model.ActionsFaultless (refs : References) (m : Model) : Prop where
  operations : ∀ c ∈ m.classes, ∀ o ∈ c.operations, Faultless refs o.action
  transitions : ∀ c ∈ m.classes, ∀ sm, c.stateMachine = some sm →
    ∀ t ∈ sm.transitions, Faultless refs t.action
  functions : ∀ f ∈ m.functions, Faultless refs f.action

namespace Python

theorem Module.concat_notes {ms : List Module} (h : ∀ x ∈ ms, OnlyMembers x.notes) :
    OnlyMembers (Module.concat ms).notes := .flatMap h

section

variable {refs : References} {symbols : SymbolTable}
  (hs : ∀ r, refs.hasClass r = true → (symbols.resolve r).isSome = true)
include hs

theorem actionBody_notes {scope : Scope} (hscope : scope.symbols = symbols) {action : String}
    (hf : Faultless refs action) (origins : List (String × String)) (indent location : String) :
    OnlyMembers (actionBody scope origins indent location action).notes := by
  unfold actionBody
  split
  · exact .nil
  · exact .under _ (Scope.body_notes (hscope ▸ hs) hf origins)

theorem operationModule_notes {scope : Scope} (hscope : scope.symbols = symbols) {o : Operation}
    (hf : Faultless refs o.action) (origins : List (String × String))
    (className tag label : String) :
    OnlyMembers (operationModule scope origins className tag label o).notes :=
  OnlyMembers.nil.append (actionBody_notes hs hscope hf _ _ _)

theorem transitionMethod_notes {scope : Scope} (hscope : scope.symbols = symbols)
    {row : TransitionRow} (hf : Faultless refs row.transition.action)
    (origins : List (String × String)) (className : String) :
    OnlyMembers (transitionMethod scope origins className row).notes := by
  unfold transitionMethod
  split
  · exact .nil
  · exact OnlyMembers.nil.append (actionBody_notes hs hscope hf _ _ _)

theorem machineModule_notes {scope : Scope} (hscope : scope.symbols = symbols) {m : StateMachine}
    (hf : ∀ t ∈ m.transitions, Faultless refs t.action) (className : String) :
    OnlyMembers (machineModule scope className m).notes := by
  refine Module.concat_notes fun x hx => ?_
  rcases List.mem_append.1 hx with hx | hx
  · rcases List.mem_append.1 hx with hx | hx
    · rw [List.mem_singleton.1 hx]
      exact .nil
    · obtain ⟨row, hrow, rfl⟩ := List.mem_map.1 hx
      have ht := TransitionRow.transition_mem_ofMachine (List.mem_filter.1 hrow).1
      exact transitionMethod_notes hs hscope (hf _ ht) _ _
  · rw [List.mem_singleton.1 hx]
    exact .nil

theorem instanceClassModule_notes (m : Model) (id : ClassId) {c : Class}
    (ho : ∀ o ∈ c.operations, Faultless refs o.action)
    (ht : ∀ sm, c.stateMachine = some sm → ∀ t ∈ sm.transitions, Faultless refs t.action) :
    OnlyMembers (instanceClassModule m symbols id c).notes := by
  refine Module.concat_notes fun x hx => ?_
  rcases List.mem_append.1 hx with hx | hx
  · rcases List.mem_append.1 hx with hx | hx
    · rw [List.mem_singleton.1 hx]
      exact .nil
    · obtain ⟨o, hmem, rfl⟩ := List.mem_map.1 hx
      exact operationModule_notes hs rfl (ho o hmem) _ _ _ _
  · obtain ⟨sm, hsm, rfl⟩ := Option.map_eq_some_iff.1 (Option.mem_toList.1 hx)
    exact machineModule_notes hs rfl (ht sm hsm) _

theorem externalModule_notes {c : Class} (ho : ∀ o ∈ c.operations, Faultless refs o.action) :
    OnlyMembers (externalModule symbols c).notes := by
  refine Module.concat_notes fun x hx => ?_
  rcases List.mem_cons.1 hx with rfl | hx
  · exact .nil
  · obtain ⟨o, hmem, rfl⟩ := List.mem_map.1 hx
    exact operationModule_notes hs rfl (ho o hmem) _ _ _ _

theorem classModule_notes (m : Model) (id : ClassId) {c : Class}
    (ho : ∀ o ∈ c.operations, Faultless refs o.action)
    (ht : ∀ sm, c.stateMachine = some sm → ∀ t ∈ sm.transitions, Faultless refs t.action) :
    OnlyMembers (classModule m symbols id c).notes := by
  unfold classModule
  split
  · exact externalModule_notes hs ho
  · exact instanceClassModule_notes hs m id ho ht

omit hs in
theorem mem_of_namedFunctions {taken : List String} {fs : List Operation} {p : String × Operation}
    (h : p ∈ namedFunctions taken fs) : p.2 ∈ fs := by
  induction fs generalizing taken with
  | nil => simp [namedFunctions] at h
  | cons f fs ih =>
    rw [namedFunctions] at h
    rcases List.mem_cons.1 h with rfl | h
    · exact List.mem_cons_self
    · exact List.mem_cons_of_mem f (ih h)

theorem functionsModule_notes {m : Model} (hf : ∀ f ∈ m.functions, Faultless refs f.action) :
    OnlyMembers (functionsModule m symbols).notes := by
  refine Module.concat_notes fun x hx => ?_
  rcases List.mem_append.1 hx with hx | hx
  · rcases List.mem_append.1 hx with hx | hx
    · rw [List.mem_singleton.1 hx]
      exact .nil
    · obtain ⟨p, hp, rfl⟩ := List.mem_map.1 hx
      exact OnlyMembers.nil.append
        (actionBody_notes hs rfl (hf p.2 (mem_of_namedFunctions hp)) _ _ _)
  · rw [List.mem_singleton.1 hx]
    exact .nil

end

/-- Action texts without faults over known classes only bring notes on members. -/
theorem Project.ofModel_notes {refs : References} {m : Model} (hf : m.ActionsFaultless refs)
    (hs : ∀ r, refs.hasClass r = true → ((SymbolTable.ofModel m).resolve r).isSome = true) :
    OnlyMembers (Project.ofModel m).notes := by
  refine OnlyMembers.flatMap fun x hx => ?_
  simp only [modules, List.mem_append, List.mem_map, List.mem_mapIdx, List.mem_singleton] at hx
  rcases hx with ((((⟨_, -, rfl⟩ | ⟨i, hi, rfl⟩) | ⟨a, -, rfl⟩) | rfl) | hx) | rfl
  · exact .nil
  · have hc := List.getElem_mem hi
    exact classModule_notes hs m i (hf.operations _ hc) (hf.transitions _ hc)
  · exact .nil
  · exact .nil
  · split at hx
    · simp at hx
    · rw [List.mem_singleton.1 hx]
      exact functionsModule_notes hs hf.functions
  · exact .nil

end Python

end ExecutableUml
