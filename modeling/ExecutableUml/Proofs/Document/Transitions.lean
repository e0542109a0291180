import ExecutableUml.Document.Model
import ExecutableUml.Proofs.Distinct

/-! The transitions of a state machine are those of the rows of its class: each comes from a row and
one of its events, and each event of a row is the event of a transition. -/

namespace ExecutableUml

open Document

theorem Transition.mem_ofRow {events : List Event} {owner : ClassId} {row : Json} {t : Transition} :
    t ∈ Transition.ofRow events owner row ↔
      ∃ source, text row ["state_name"] = some source ∧
        ∃ signature ∈ stateEvents row, eventName signature ≠ "" ∧ t = {
          source
          event := eventName signature
          eventSignature := signature
          eventParameters :=
            ((Event.named events (eventName signature) (some owner)).map Event.parameters).getD []
          guard := none
          action := actionText (row.get? "action")
          target := (text row ["next_state"]).getD source } := by
  unfold ofRow
  cases text row ["state_name"] with
  | none => simp
  | some source =>
    constructor
    · intro h
      obtain ⟨signature, hsignature, h⟩ := List.mem_filterMap.1 h
      simp only at h
      split at h
      · cases h
      · rename_i hname
        cases h
        exact ⟨source, rfl, signature, hsignature, by simpa using hname, rfl⟩
    · rintro ⟨_, hsource, signature, hsignature, hname, rfl⟩
      cases hsource
      exact List.mem_filterMap.2 ⟨signature, hsignature, if_neg (by simpa using hname)⟩

namespace StateMachine

variable {events : List Event} {owner : ClassId} {entry : Json}

theorem row_of_transition {sm : StateMachine} (h : ofEntry events owner entry = some sm)
    {t : Transition} (ht : t ∈ sm.transitions) :
    ∃ row ∈ items entry "states", t ∈ Transition.ofRow events owner row := by
  simp only [ofEntry] at h
  split at h
  · cases h
  · cases h
    obtain ⟨row, hrow, hr⟩ := List.mem_flatMap.1 (mem_of_mem_distinctFrom ht)
    exact ⟨row, (List.mem_filter.1 hrow).1, hr⟩

theorem transition_of_row {row : Json} (hrow : row ∈ entries entry "states") {t : Transition}
    (ht : t ∈ Transition.ofRow events owner row) :
    ∃ sm, ofEntry events owner entry = some sm ∧ ∃ u ∈ sm.transitions, u.sameEffect t = true := by
  have hrows : (entries entry "states").isEmpty = false :=
    List.isEmpty_eq_false_iff.2 (List.ne_nil_of_mem hrow)
  refine ⟨_, if_neg (by simp [hrows]), ?_⟩
  exact exists_same_of_mem (by simp [Transition.sameEffect]) (List.mem_flatMap.2 ⟨row, hrow, ht⟩)

end StateMachine

end ExecutableUml
