import ExecutableUml.Proofs.Document.Generalizations
import ExecutableUml.Proofs.Lists

/-! The model of a valid document has no dangling references. Entry by entry, the ends of every
relationship that is no generalization, the class of every event and the related class of every
attribute that names one are the places that the registry of the checks has for the same text. -/

namespace ExecutableUml

namespace Document

def relatedClassKeys : List String := ["related_class_id", "related_class_name"]

/-- The field names a class of the model, and the handle is the place that the checks know it by. -/
def Resolved (doc entry : Json) (keys : List String) (handle : Option ClassId) : Prop :=
  ∃ reference i, text entry keys = some reference ∧
    (Registry.ofDocument doc).index reference = some i ∧ handle = some i ∧
    i < (Model.ofDocument doc).classes.length

theorem end_of_findings {registry : Registry} {path : String} {side : End} {reference : Option String}
    (hf : endFindings registry path side reference = []) :
    ∃ r, reference = some r ∧ registry.resolves r = true := by
  cases reference with
  | none => simp [endFindings, finding] at hf
  | some r => exact ⟨r, rfl, check_eq_nil.1 hf⟩

section Valid

variable {doc : Json} (h : structureFindings doc = [])
include h

theorem index_lt {reference : String} {i : Nat}
    (hi : (Registry.ofDocument doc).index reference = some i) :
    i < (Model.ofDocument doc).classes.length := by
  obtain ⟨hlt, -⟩ := List.findIdx?_eq_some_iff_getElem.1 hi
  obtain ⟨pyNames, hclasses⟩ := Model.classes_ofDocument doc
  rw [Registry.ofDocument, List.length_map, ← classEntries_eq h] at hlt
  rwa [hclasses, List.length_mapIdx]

theorem resolved_field {entry : Json} {keys : List String} {reference : String}
    (ht : text entry keys = some reference)
    (hr : (Registry.ofDocument doc).resolves reference = true) :
    Resolved doc entry keys ((Roster.ofDocument doc).field entry keys) := by
  obtain ⟨i, hi⟩ := Option.isSome_iff_exists.1 hr
  refine ⟨reference, i, ht, hi, ?_, index_lt h hi⟩
  rw [Roster.field, ht, Option.bind_some, resolve_eq_index h, hi]

theorem ends_of_valid {rel : Json} (hr : rel ∈ items doc "relationships")
    (hg : isGeneralization rel = false) :
    (∃ a, text rel fromKeys = some a ∧ (Registry.ofDocument doc).resolves a = true) ∧
      ∃ b, text rel toKeys = some b ∧ (Registry.ofDocument doc).resolves b = true := by
  obtain ⟨i, hi⟩ := List.mem_iff_getElem?.1 hr
  have hf := relationshipFindings_of_valid h hi
  rw [relationshipFindings, if_pos (relationship_isObject h hr), List.append_eq_nil_iff,
    List.append_eq_nil_iff] at hf
  obtain ⟨⟨-, hfrom⟩, hto⟩ := hf
  rw [checkedEnds, if_neg (by simp [hg])] at hfrom hto
  exact ⟨end_of_findings hfrom, end_of_findings hto⟩

theorem event_of_valid {event : Json} (he : event ∈ items doc "events") :
    event.isObject = true ∧ (∃ name, text event ["event_name"] = some name) ∧
      ∃ c, text event ["class_id"] = some c ∧ (Registry.ofDocument doc).resolves c = true := by
  obtain ⟨i, hi⟩ := List.mem_iff_getElem?.1 he
  obtain ⟨name, hname, -⟩ := eventName_of_valid h hi
  have hf := eventFindings_of_valid h hi
  rw [eventFindings] at hf
  split at hf
  · rename_i hobject
    refine ⟨hobject, ⟨name, hname⟩, ?_⟩
    have hclass := (List.append_eq_nil_iff.1 (List.append_eq_nil_iff.1 hf).1).2
    split at hclass
    · simp [finding] at hclass
    · rename_i c hc
      exact ⟨c, hc, check_eq_nil.1 hclass⟩
  · simp [finding] at hf

theorem attributeFindings_of_valid {entry item : Json} (he : entry ∈ classes doc)
    (ha : item ∈ items entry "attributes") :
    ∃ path, attributeFindings (Registry.ofDocument doc) path item = [] := by
  simp only [structureFindings, List.append_eq_nil_iff] at h
  obtain ⟨⟨⟨⟨⟨⟨⟨⟨-, hattributes⟩, -⟩, -⟩, -⟩, -⟩, -⟩, -⟩, -⟩ := h
  obtain ⟨i, hz⟩ := exists_mem_zipIdx he
  exact checkItems_mem (List.flatMap_eq_nil_iff.1 hattributes (entry, i) hz) ha

theorem attribute_of_valid {entry item : Json} (he : entry ∈ classes doc)
    (ha : item ∈ items entry "attributes") :
    item.isObject = true ∧ ∀ r, text item relatedClassKeys = some r →
      (Registry.ofDocument doc).resolves r = true := by
  obtain ⟨path, hf⟩ := attributeFindings_of_valid h he ha
  rw [attributeFindings] at hf
  split at hf
  · rename_i hobject
    refine ⟨hobject, fun r hr => ?_⟩
    have hrelated := (List.append_eq_nil_iff.1 hf).2
    rw [relatedClassKeys] at hr
    rw [hr] at hrelated
    exact check_eq_nil.1 hrelated
  · simp [finding] at hf

theorem eventEntries_eq : entries doc "events" = items doc "events" :=
  List.filter_eq_self.2 fun _ he => (event_of_valid h he).1

theorem attributeEntries_eq {entry : Json} (he : entry ∈ classes doc) :
    entries entry "attributes" = items entry "attributes" :=
  List.filter_eq_self.2 fun _ ha => (attribute_of_valid h he ha).1

end Valid

/-- Its association class is all that is added to a relationship. -/
theorem withAssociation_eq (names : Roster) (entry : Json) :
    ∃ association, Relationship.withAssociation names entry =
      { Relationship.ofEntry names entry with association } := by
  unfold Relationship.withAssociation
  split
  · exact ⟨none, rfl⟩
  · exact ⟨_, rfl⟩
  · exact ⟨_, rfl⟩

/-- The lists of the model go with those of the document, and their references are resolved. An
attribute without a related class names none. -/
structure ReferencesResolved (doc : Json) : Prop where
  relationships : List.Forall₂ (fun entry r => r.isGeneralization = isGeneralization entry ∧
      (r.isGeneralization = false →
        Resolved doc entry fromKeys r.source ∧ Resolved doc entry toKeys r.target))
    (items doc "relationships") (Model.ofDocument doc).relationships
  events : List.Forall₂ (fun entry e => Resolved doc entry ["class_id"] e.owner)
    (items doc "events") (Model.ofDocument doc).events
  attributes : List.Forall₂ (fun entry c => List.Forall₂ (fun item a =>
        text item relatedClassKeys = none ∧ a.relatedClass = none ∨
          Resolved doc item relatedClassKeys a.relatedClass)
      (items entry "attributes") c.attributes)
    (classes doc) (Model.ofDocument doc).classes

/-- A valid document becomes a model without dangling references. -/
theorem valid_document_resolved (doc : Json) (h : issues doc = []) : ReferencesResolved doc := by
  obtain ⟨-, hs, -⟩ := findings_eq_nil.1 (issues_eq_nil.1 h)
  constructor
  · rw [← relationshipEntries_eq hs]
    refine forall₂_map fun rel hrel => ?_
    rw [relationshipEntries_eq hs] at hrel
    obtain ⟨association, hrelationship⟩ := withAssociation_eq (Roster.ofDocument doc) rel
    rw [hrelationship]
    refine ⟨rfl, fun hnot => ?_⟩
    obtain ⟨⟨a, ha, hra⟩, b, hb, hrb⟩ := ends_of_valid hs hrel hnot
    exact ⟨resolved_field hs ha hra, resolved_field hs hb hrb⟩
  · rw [← eventEntries_eq hs]
    refine forall₂_filterMap fun event hevent => ?_
    rw [eventEntries_eq hs] at hevent
    obtain ⟨-, ⟨name, hname⟩, c, hc, hrc⟩ := event_of_valid hs hevent
    have hmade : Event.ofEntry (Roster.ofDocument doc) event = some ⟨name,
        (Roster.ofDocument doc).field event ["class_id"],
        ((event.get? "parameters").map Document.parameters).getD []⟩ := by
      rw [Event.ofEntry, hname]
      rfl
    exact ⟨_, hmade, resolved_field hs hc hrc⟩
  · obtain ⟨pyNames, hclasses⟩ := Model.classes_ofDocument doc
    rw [hclasses, ← classEntries_eq hs]
    refine forall₂_mapIdx fun i entry hentry => ?_
    rw [classEntries_eq hs] at hentry
    rw [Class.ofEntry, attributeEntries_eq hs hentry]
    refine forall₂_map fun item hitem => ?_
    cases hr : text item relatedClassKeys with
    | none =>
      refine .inl ⟨rfl, ?_⟩
      rw [relatedClassKeys] at hr
      rw [Attribute.ofEntry, Roster.field, hr, Option.bind_none]
    | some r =>
      exact .inr (resolved_field hs hr ((attribute_of_valid hs hentry hitem).2 r hr))

/-- The id of the depot is the name of the truck, so a reference to it means the depot. -/
def depotDocument : Json := .object [
  ("events", .array [.object [("class_id", .string " tr "), ("event_name", .string "Load")]]),
  ("model", .array [
    .object [("KL", .string "DE"),
      ("attributes", .array [
        .object [("attribute_name", .string "fleet"), ("related_class_name", .string "truck")]]),
      ("class_id", .string "Truck"), ("class_name", .string "Depot")],
    .object [("KL", .string "TR"), ("class_id", .number (.natural 2)),
      ("class_name", .string "Truck")]]),
  ("relationships", .array [.object [("fromClass", .string "2"), ("rel_id", .string "R1"),
    ("target_class", .string "TRUCK")]])]

theorem depot_references_resolved :
    issues depotDocument = [] ∧ ReferencesResolved depotDocument ∧
      ((Model.ofDocument depotDocument).relationships.map fun r => (r.source, r.target)) =
        [(some 1, some 0)] := by
  have h : issues depotDocument = [] := by decide +kernel
  exact ⟨h, valid_document_resolved depotDocument h, by decide +kernel⟩

end Document

end ExecutableUml
