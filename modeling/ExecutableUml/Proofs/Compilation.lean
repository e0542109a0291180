import ExecutableUml.Compilation
import ExecutableUml.Proofs.Document.ClassReferences
import ExecutableUml.Proofs.Document.Transitions
import ExecutableUml.Proofs.Python.Notes

/-! Checking a document is enough for compiling it: every action text of the model is one that was
checked, and every class it names is one that the model has. So the only notes on the code of a
valid document are about members. -/

namespace ExecutableUml

open ExecutableUml.Action

namespace Document

/-- Every transition of a machine has the action of one of the rows of its class. -/
theorem transition_action_of_entry {events : List Event} {owner : ClassId} {entry : Json}
    {sm : StateMachine} (h : StateMachine.ofEntry events owner entry = some sm) {t : Transition}
    (ht : t ∈ sm.transitions) :
    ∃ row ∈ items entry "states", t.action = actionText (row.get? "action") := by
  obtain ⟨row, hrow, ht⟩ := StateMachine.row_of_transition h ht
  obtain ⟨_, -, _, -, -, rfl⟩ := Transition.mem_ofRow.1 ht
  exact ⟨row, hrow, rfl⟩

theorem operation_action_of_entry {entry : Json} {o : Operation}
    (h : Operation.ofEntry entry = some o) : o.action = actionText (entry.get? "action") := by
  simp only [Operation.ofEntry, Option.bind_eq_bind, Option.bind_eq_some_iff] at h
  obtain ⟨_, -, h⟩ := h
  cases h
  rfl

theorem classEntries_subset {doc entry : Json} (h : entry ∈ classEntries doc) :
    entry ∈ classes doc :=
  (List.mem_filter.1 h).1

theorem actionsFaultless_ofDocument {doc : Json} {refs : References}
    (h : actionsFindings doc refs = []) : (Model.ofDocument doc).ActionsFaultless refs where
  operations := by
    intro c hc o ho
    obtain ⟨i, hi, pyNames, rfl⟩ := Model.exists_entry_of_mem hc
    obtain ⟨entry, he, hoe⟩ := List.mem_filterMap.1 ho
    rw [operation_action_of_entry hoe]
    exact operation_faultless h (classEntries_subset (List.getElem_mem hi)) he
  transitions := by
    intro c hc sm hsm t ht
    obtain ⟨i, hi, pyNames, rfl⟩ := Model.exists_entry_of_mem hc
    obtain ⟨row, hrow, hr⟩ := transition_action_of_entry hsm ht
    rw [hr]
    exact state_faultless h (classEntries_subset (List.getElem_mem hi)) hrow
  functions := by
    intro f hf
    obtain ⟨entry, he, hfe⟩ := List.mem_filterMap.1 hf
    rw [operation_action_of_entry hfe]
    exact function_faultless h he

end Document

open Document

/-- The name of a project does not change what its actions mean. -/
theorem onlyMembers_of_valid {doc : Json} (h : findings doc = []) (name : String) :
    OnlyMembers (Python.Project.ofModel { Model.ofDocument doc with name := name }).notes := by
  obtain ⟨-, hstructure, hactions⟩ := findings_eq_nil.1 h
  have hf := actionsFaultless_ofDocument hactions
  exact Python.Project.ofModel_notes ⟨hf.operations, hf.transitions, hf.functions⟩
    fun r hr => SymbolTable.resolve_of_hasClass hstructure hr

theorem unresolved_of_valid {doc : Json} (h : findings doc = []) (name : String) {n : Note}
    (hn : n ∈ (Python.Project.ofModel { Model.ofDocument doc with name := name }).unresolved) :
    n.kind = .unknownMember := by
  obtain ⟨hmem, hu⟩ := List.mem_filter.1 hn
  rcases onlyMembers_of_valid h name n hmem with hk | hk
  · exact hk
  · rw [hk] at hu
    cases hu

/-- A document without issues has no line that cannot be compiled and no class that is left to run
time, so a strict compilation of it only fails on members that no class declares. -/
theorem valid_document_notes (doc : Json) (h : issues doc = []) :
    (∀ n ∈ (Python.Project.ofModel (Model.ofDocument doc)).notes,
      n.kind ≠ .unparsed ∧ n.kind ≠ .lateBoundClass) ∧
    ∀ (o : Options) (f : Failure), compileDocument o doc = .error f →
      o.strict = true ∧ ∃ notes, f = .unresolvedNames notes ∧ notes ≠ [] ∧
        ∀ n ∈ notes, n.kind = .unknownMember := by
  have hf := issues_eq_nil.1 h
  constructor
  · intro n hn
    rcases onlyMembers_of_valid hf (Model.ofDocument doc).name n hn with hk | hk
    · exact ⟨by rw [hk]; decide, by rw [hk]; decide⟩
    · exact ⟨by rw [hk]; decide, by rw [hk]; decide⟩
  · intro o f he
    have hv : validate doc = .ok () := by simp [validate, h]
    simp only [compileDocument, hv, bind, Except.bind] at he
    split at he
    · rename_i hc
      simp only [Bool.and_eq_true, Bool.not_eq_true', List.isEmpty_eq_false_iff] at hc
      cases he
      exact ⟨hc.1, _, rfl, hc.2, fun n hn => unresolved_of_valid hf _ hn⟩
    · cases he

/-- Crates on stalls; a function asks for the class that is made for the relationship. -/
def marketDocument : Json := .object [
  ("functions", .array [.object [
    ("action", .string "select many ps from instances of stall_crate_r1"),
    ("name", .string "audit")]]),
  ("model", .array [
    .object [("KL", .string "ST"), ("class_id", .string "C1"), ("class_name", .string "Stall"),
      ("operations", .array [.object [("action", .string "create object instance c of cr"),
        ("signature", .string "fill()")]])],
    .object [("KL", .string "CR"), ("class_id", .string "C2"), ("class_name", .string "Crate")]]),
  ("relationships", .array [.object [("from_class", .string "ST"),
    ("from_class_multiplicity", .string "*"), ("rel_id", .string "R1"), ("to_class", .string "C2"),
    ("to_class_multiplicity", .string "zero_star")]])]

theorem market_document_notes :
    issues marketDocument = [] ∧
    ∀ n ∈ (Python.Project.ofModel (Model.ofDocument marketDocument)).notes,
      n.kind ≠ .unparsed ∧ n.kind ≠ .lateBoundClass := by
  have h : issues marketDocument = [] := by decide +kernel
  exact ⟨h, (valid_document_notes marketDocument h).1⟩

end ExecutableUml
