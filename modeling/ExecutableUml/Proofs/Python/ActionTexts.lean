import ExecutableUml.Proofs.Compilation

/-! The statements whose code a project holds, and what a valid document says of the names in them:
every relationship and every event that such a statement names is declared, up to case, and it is
declared once. -/

namespace ExecutableUml

open Text ExecutableUml.Action

namespace Model

def actionTexts (m : Model) : List String :=
  m.classes.flatMap (fun c =>
    c.operations.map Operation.action ++ c.tableRows.map fun row => row.transition.action) ++
  m.functions.map Operation.action

def statements (m : Model) : List Statement :=
  m.actionTexts.flatMap fun body => (parseBody body).map BodyLine.statement

def relIds (m : Model) : List String := m.relationships.map Relationship.relId

def eventNames (m : Model) : List String := m.events.map Event.name

theorem ActionsFaultless.actionTexts {refs : References} {m : Model} (h : m.ActionsFaultless refs)
    {body : String} (hb : body ∈ m.actionTexts) : Faultless refs body := by
  rcases List.mem_append.1 hb with hb | hb
  · obtain ⟨c, hc, hb⟩ := List.mem_flatMap.1 hb
    rcases List.mem_append.1 hb with hb | hb
    · obtain ⟨o, ho, rfl⟩ := List.mem_map.1 hb
      exact h.operations c hc o ho
    · obtain ⟨row, hrow, rfl⟩ := List.mem_map.1 hb
      obtain ⟨-, sm, hsm, hrow⟩ := Class.mem_tableRows.1 hrow
      exact h.transitions c hc sm hsm _ (Python.TransitionRow.transition_mem_ofMachine hrow)
  · obtain ⟨f, hf, rfl⟩ := List.mem_map.1 hb
    exact h.functions f hf

theorem ActionsFaultless.statements {refs : References} {m : Model} (h : m.ActionsFaultless refs)
    {st : Statement} (hst : st ∈ m.statements) : st.faults refs = [] := by
  obtain ⟨body, hbody, hst⟩ := List.mem_flatMap.1 hst
  obtain ⟨l, hl, rfl⟩ := List.mem_map.1 hst
  exact h.actionTexts hbody l hl

end Model

namespace Document

theorem relId_withAssociation (names : Roster) (rel : Json) :
    (Relationship.withAssociation names rel).relId = (text rel relIdKeys).getD "" := by
  unfold Relationship.withAssociation
  split <;> rfl

theorem relId_of_hasRelationship {doc : Json} {id : String}
    (h : (references doc).hasRelationship id = true) :
    ∃ d ∈ (Model.ofDocument doc).relIds, lower d = lower (trimmed id) := by
  rw [References.hasRelationship, List.contains_iff_mem] at h
  obtain ⟨rel, hrel, hkey⟩ := List.mem_filterMap.1 h
  obtain ⟨relId, htext, hlower⟩ := Option.map_eq_some_iff.1 hkey
  refine ⟨relId, List.mem_map.2 ⟨_, List.mem_map_of_mem hrel, ?_⟩, hlower⟩
  rw [relId_withAssociation, htext]
  rfl

theorem mem_eventNames {doc : Json} {name : String} :
    name ∈ (Model.ofDocument doc).eventNames ↔
      ∃ entry ∈ entries doc "events", text entry ["event_name"] = some name := by
  constructor
  · intro h
    obtain ⟨e, he, rfl⟩ := List.mem_map.1 h
    obtain ⟨entry, hentry, he⟩ := List.mem_filterMap.1 he
    obtain ⟨name, hname, he⟩ := Option.bind_eq_some_iff.1 he
    cases he
    exact ⟨entry, hentry, hname⟩
  · rintro ⟨entry, hentry, hname⟩
    have hevent : ∃ e, Event.ofEntry (Roster.ofDocument doc) entry = some e ∧ e.name = name := by
      simp [Event.ofEntry, hname]
    obtain ⟨e, he, rfl⟩ := hevent
    exact List.mem_map_of_mem (List.mem_filterMap.2 ⟨entry, hentry, he⟩)

theorem eventName_of_hasEvent {doc : Json} {name : String}
    (h : (references doc).hasEvent name = true) :
    ∃ d ∈ (Model.ofDocument doc).eventNames, lower d = lower (trimmed name) := by
  rw [References.hasEvent, List.contains_iff_mem] at h
  obtain ⟨entry, hentry, hkey⟩ := List.mem_filterMap.1 h
  obtain ⟨declared, htext, hlower⟩ := Option.map_eq_some_iff.1 hkey
  exact ⟨declared, mem_eventNames.2 ⟨entry, hentry, htext⟩, hlower⟩

section Valid

variable {doc : Json} (h : findings doc = [])
include h

theorem statement_faultless {st : Statement} (hst : st ∈ (Model.ofDocument doc).statements) :
    st.faults (references doc) = [] :=
  (actionsFaultless_ofDocument (findings_eq_nil.1 h).2.2).statements hst

theorem relId_of_mem {d : String} (hd : d ∈ (Model.ofDocument doc).relIds) :
    isRelationshipId d = true ∧
      ∃ rel ∈ items doc "relationships", text rel relIdKeys = some d := by
  obtain ⟨r, hr, rfl⟩ := List.mem_map.1 hd
  obtain ⟨rel, hrel, rfl⟩ := List.mem_map.1 hr
  have hmem := (List.mem_filter.1 hrel).1
  obtain ⟨i, hi⟩ := List.mem_iff_getElem?.1 hmem
  obtain ⟨relId, htext, hform, -⟩ := relId_of_valid (findings_eq_nil.1 h).2.1 hi
  rw [relId_withAssociation, htext]
  exact ⟨hform, rel, hmem, htext⟩

/-- No two declared ids differ only in case. -/
theorem relIds_unique {d e : String} (hd : d ∈ (Model.ofDocument doc).relIds)
    (he : e ∈ (Model.ofDocument doc).relIds) (hde : lower d = lower e) : d = e := by
  obtain ⟨-, a, ha, hda⟩ := relId_of_mem h hd
  obtain ⟨-, b, hb, heb⟩ := relId_of_mem h he
  refine eq_of_lower_eq ?_ ha hda hb heb hde
  intro i entry value hi hvalue
  obtain ⟨relId, htext, -, hearlier⟩ := relId_of_valid (findings_eq_nil.1 h).2.1 hi
  rw [hvalue, Option.some.injEq] at htext
  rwa [htext]

theorem eventNames_unique {d e : String} (hd : d ∈ (Model.ofDocument doc).eventNames)
    (he : e ∈ (Model.ofDocument doc).eventNames) (hde : lower d = lower e) : d = e := by
  obtain ⟨a, ha, hda⟩ := mem_eventNames.1 hd
  obtain ⟨b, hb, heb⟩ := mem_eventNames.1 he
  refine eq_of_lower_eq ?_ (List.mem_filter.1 ha).1 hda (List.mem_filter.1 hb).1 heb hde
  intro i entry value hi hvalue
  obtain ⟨name, htext, hearlier⟩ := eventName_of_valid (findings_eq_nil.1 h).2.1 hi
  rw [hvalue, Option.some.injEq] at htext
  rwa [htext]

end Valid

end Document

end ExecutableUml
