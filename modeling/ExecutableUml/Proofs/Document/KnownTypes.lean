import ExecutableUml.Proofs.Document.AssociationNames

/-! Which types of a valid document are known. The checks look at the types of attributes, of listed
parameters and of those in signatures. They pass over the attributes given to a class that is made
for a relationship, and over event parameters that are given as one text; the types of the model are
known exactly when these are. -/

namespace ExecutableUml

open Text

def ParametersKnown (params : List Parameter) : Prop := ∀ p ∈ params, p.type.isKnown = true

instance (params : List Parameter) : Decidable (ParametersKnown params) :=
  inferInstanceAs (Decidable (∀ p ∈ params, _))

theorem parametersKnown_nil : ParametersKnown [] := by
  intro p hp
  cases hp

/-- No attribute and no parameter of the model has an unknown type. -/
structure Model.TypesKnown (m : Model) : Prop where
  attributes : ∀ c ∈ m.classes, ∀ a ∈ c.attributes, a.type.isKnown = true
  associations : ∀ c ∈ m.associations, ∀ a ∈ c.attributes, a.type.isKnown = true
  operations : ∀ c ∈ m.classes, ∀ o ∈ c.operations, ParametersKnown o.parameters
  functions : ∀ f ∈ m.functions, ParametersKnown f.parameters
  events : ∀ e ∈ m.events, ParametersKnown e.parameters

namespace Document

/-- The type that the entry of an attribute names is known. -/
def NamesKnownType (entry : Json) : Prop :=
  (text entry ["data_type"]).all (fun t => (DataType.parse t).isKnown) = true

instance (entry : Json) : Decidable (NamesKnownType entry) :=
  inferInstanceAs (Decidable (_ = true))

def parameterText (event : Json) : List Parameter :=
  match event.get? "parameters" with
  | some (.string s) => Parameter.parseList s
  | _ => []

/-- The types that the checks pass over are known. -/
structure UncheckedTypesKnown (doc : Json) : Prop where
  associations : ∀ rel ∈ items doc "relationships", GetsClass doc rel →
    ∀ a ∈ entries rel "association_attributes", NamesKnownType a
  eventTexts : ∀ event ∈ items doc "events", ParametersKnown (parameterText event)

theorem isKnown_ofEntry (names : Roster) (entry : Json) :
    (Attribute.ofEntry names entry).type.isKnown = true ↔ NamesKnownType entry := by
  rw [Attribute.ofEntry, NamesKnownType]
  cases text entry ["data_type"] with
  | none => simp [DataType.isKnown]
  | some t => simp

-- The checks of parameters, from the innermost one outwards

theorem parameterTextFindings_eq_nil {path params : String} :
    parameterTextFindings path params = [] ↔ ParametersKnown (Parameter.parseList params) := by
  simp only [parameterTextFindings, List.flatMap_eq_nil_iff, check_eq_nil, ParametersKnown]

theorem known_of_parameterEntryFindings {path : String} {item : Json}
    (h : parameterEntryFindings path item = []) : ParametersKnown (parameterEntry item) := by
  cases item with
  | string s => exact parameterTextFindings_eq_nil.1 h
  | object fields =>
    rw [parameterEntryFindings] at h
    rw [parameterEntry]
    split
    · rename_i name hname
      intro p hp
      cases List.mem_singleton.1 hp
      cases ht : parameterType (.object fields) with
      | none => rfl
      | some t =>
        rw [ht] at h
        exact check_eq_nil.1 h
    · exact parametersKnown_nil
  | null | bool | number | array => exact parametersKnown_nil

theorem known_of_checkItems (place : String → String) {path : String} {params : List Json}
    (h : checkItems path params (fun p => parameterEntryFindings (place p)) = []) :
    ParametersKnown (params.flatMap parameterEntry) := by
  intro p hp
  obtain ⟨item, hitem, hp⟩ := List.mem_flatMap.1 hp
  obtain ⟨at_, hf⟩ := checkItems_mem h hitem
  exact known_of_parameterEntryFindings hf p hp

theorem known_of_signatureFindings {path : String} (signature : Option String)
    (h : signatureFindings path signature = []) :
    ParametersKnown ((signature.map signatureParameters).getD []) := by
  cases signature with
  | none => exact parametersKnown_nil
  | some s =>
    rw [Option.map_some, Option.getD_some, signatureParameters]
    rw [signatureFindings, Option.bind_some] at h
    cases hs : (splitSignature s).2 with
    | none => exact parametersKnown_nil
    | some params =>
      rw [hs] at h
      exact parameterTextFindings_eq_nil.1 h

/-- An operation or a function without findings has parameters of known types. -/
theorem known_of_callableFindings {path : String} {entry : Json}
    (h : callableFindings path entry = []) : ParametersKnown (callableParameters entry) := by
  cases entry with
  | string s => exact known_of_signatureFindings (some s) h
  | object fields =>
    rw [callableFindings] at h
    rw [callableParameters]
    cases hlisted : ((Json.object fields).get? "parameters") <|>
        (Json.object fields).get? "params" with
    | none =>
      rw [hlisted] at h
      exact known_of_signatureFindings _ h
    | some listed =>
      rw [hlisted] at h
      cases listed with
      | array params => exact known_of_checkItems id h
      | string params => exact parameterTextFindings_eq_nil.1 h
      | null => exact known_of_signatureFindings _ h
      | bool | number | object => exact parametersKnown_nil
  | null | bool | number | array => simp [callableFindings, finding] at h

-- Where the attributes and parameters of the model come from

theorem entry_of_class {doc : Json} {c : Class} (hc : c ∈ (Model.ofDocument doc).classes) :
    ∃ entry ∈ classes doc,
      c.attributes = (entries entry "attributes").map
        (Attribute.ofEntry (Roster.ofDocument doc)) ∧
      c.operations = (items entry "operations").filterMap Operation.ofEntry := by
  obtain ⟨i, hi, pyNames, rfl⟩ := Model.exists_entry_of_mem hc
  exact ⟨_, (List.mem_filter.1 (List.getElem_mem hi)).1, rfl, rfl⟩

theorem parameters_of_ofEntry {entry : Json} {o : Operation}
    (h : Operation.ofEntry entry = some o) : o.parameters = callableParameters entry := by
  obtain ⟨signature, -, ho⟩ := Option.bind_eq_some_iff.1 h
  cases ho
  rfl

/-- An attribute of a class that is made for a relationship is given with the relationship. -/
theorem exists_associationAttribute_iff {doc : Json} {given : Attribute} :
    (∃ c ∈ (Model.ofDocument doc).associations, given ∈ c.attributes) ↔
      ∃ rel ∈ entries doc "relationships",
        (∃ a, AssociationClass.ofEntry (Roster.ofDocument doc) rel = some a) ∧
        ∃ item ∈ entries rel "association_attributes",
          Attribute.ofEntry (Roster.ofDocument doc) item = given := by
  rw [exists_association_iff (fun c => given ∈ c.attributes) fun _ _ => Iff.rfl]
  constructor
  · rintro ⟨rel, hrel, a, ha, hgiven⟩
    obtain ⟨-, -, -, -, hattributes⟩ := AssociationClass.made_of_ofEntry ha
    rw [hattributes] at hgiven
    exact ⟨rel, hrel, ⟨a, ha⟩, List.mem_map.1 hgiven⟩
  · rintro ⟨rel, hrel, ⟨a, ha⟩, hitem⟩
    obtain ⟨-, -, -, -, hattributes⟩ := AssociationClass.made_of_ofEntry ha
    refine ⟨rel, hrel, a, ha, ?_⟩
    rw [hattributes]
    exact List.mem_map.2 hitem

section Valid

variable {doc : Json} (h : structureFindings doc = [])
include h

theorem attribute_type_of_valid {entry item : Json} (he : entry ∈ classes doc)
    (ha : item ∈ items entry "attributes") : NamesKnownType item := by
  obtain ⟨path, hf⟩ := attributeFindings_of_valid h he ha
  rw [attributeFindings, if_pos (attribute_of_valid h he ha).1, List.append_eq_nil_iff,
    List.append_eq_nil_iff] at hf
  obtain ⟨⟨-, htype⟩, -⟩ := hf
  rw [NamesKnownType]
  cases ht : text item ["data_type"] with
  | none => rfl
  | some t =>
    rw [ht] at htype
    exact check_eq_nil.1 htype

theorem operation_known_of_valid {entry item : Json} (he : entry ∈ classes doc)
    (ho : item ∈ items entry "operations") : ParametersKnown (callableParameters item) := by
  simp only [structureFindings, List.append_eq_nil_iff] at h
  obtain ⟨⟨-, hoperations⟩, -⟩ := h
  obtain ⟨i, hz⟩ := exists_mem_zipIdx he
  obtain ⟨path, hf⟩ := checkItems_mem (List.flatMap_eq_nil_iff.1 hoperations (entry, i) hz) ho
  exact known_of_callableFindings hf

theorem function_known_of_valid {item : Json} (hi : item ∈ items doc "functions") :
    ParametersKnown (callableParameters item) := by
  simp only [structureFindings, List.append_eq_nil_iff] at h
  obtain ⟨path, hf⟩ := checkItems_mem h.2 hi
  exact known_of_callableFindings hf

/-- Listed parameters of an event are checked. -/
theorem listed_known_of_valid {event : Json} (he : event ∈ items doc "events") :
    ParametersKnown ((items event "parameters").flatMap parameterEntry) := by
  obtain ⟨i, hi⟩ := List.mem_iff_getElem?.1 he
  have hf := eventFindings_of_valid h hi
  rw [eventFindings, if_pos (event_of_valid h he).1] at hf
  exact known_of_checkItems (field · "type") (List.append_eq_nil_iff.1 hf).2

/-- Of the parameters of an event, those that are given as one text decide. -/
theorem event_known_iff {event : Json} (he : event ∈ items doc "events") :
    ParametersKnown (((event.get? "parameters").map parameters).getD []) ↔
      ParametersKnown (parameterText event) := by
  have hlisted := listed_known_of_valid h he
  rw [items] at hlisted
  rw [parameterText]
  cases hp : event.get? "parameters" with
  | none => rfl
  | some value =>
    rw [hp] at hlisted
    cases value with
    | string s => rfl
    | array values => exact iff_of_true hlisted parametersKnown_nil
    | null | bool | number | object => rfl

end Valid

/-- The types of the model of a valid document are known exactly when those are that the checks pass
over: in the attributes of the classes that are made for relationships, and in event parameters that
are given as one text. -/
theorem valid_types_known_iff (doc : Json) (h : issues doc = []) :
    (Model.ofDocument doc).TypesKnown ↔ UncheckedTypesKnown doc := by
  obtain ⟨-, hs, -⟩ := findings_eq_nil.1 (issues_eq_nil.1 h)
  constructor
  · intro hknown
    constructor
    · intro rel hrel hgets item hitem
      rw [← relationshipEntries_eq hs] at hrel
      obtain ⟨c, hc, ha⟩ := exists_associationAttribute_iff.2
        ⟨rel, hrel, (exists_made_iff hs (relationshipEntries_eq hs ▸ hrel)).2 hgets, item, hitem,
          rfl⟩
      exact (isKnown_ofEntry _ item).1 (hknown.associations c hc _ ha)
    · intro event hevent
      obtain ⟨-, ⟨name, hname⟩, -⟩ := event_of_valid hs hevent
      apply (event_known_iff hs hevent).1
      have hmade : Event.ofEntry (Roster.ofDocument doc) event = some ⟨name,
          (Roster.ofDocument doc).field event ["class_id"],
          ((event.get? "parameters").map parameters).getD []⟩ := by
        rw [Event.ofEntry, hname]
        rfl
      rw [← eventEntries_eq hs] at hevent
      exact hknown.events _ (List.mem_filterMap.2 ⟨event, hevent, hmade⟩)
  · intro hunchecked
    constructor
    · intro c hc a ha
      obtain ⟨entry, hentry, hattributes, -⟩ := entry_of_class hc
      rw [hattributes] at ha
      obtain ⟨item, hitem, rfl⟩ := List.mem_map.1 ha
      apply (isKnown_ofEntry _ item).2
      exact attribute_type_of_valid hs hentry (List.mem_filter.1 hitem).1
    · intro c hc a ha
      obtain ⟨rel, hrel, hmade, item, hitem, rfl⟩ :=
        exists_associationAttribute_iff.1 ⟨c, hc, ha⟩
      rw [relationshipEntries_eq hs] at hrel
      apply (isKnown_ofEntry _ item).2
      exact hunchecked.associations rel hrel ((exists_made_iff hs hrel).1 hmade) item hitem
    · intro c hc o ho
      obtain ⟨entry, hentry, -, hoperations⟩ := entry_of_class hc
      rw [hoperations] at ho
      obtain ⟨item, hitem, ho⟩ := List.mem_filterMap.1 ho
      rw [parameters_of_ofEntry ho]
      exact operation_known_of_valid hs hentry hitem
    · intro f hf
      obtain ⟨item, hitem, hf⟩ := List.mem_filterMap.1 hf
      rw [parameters_of_ofEntry hf]
      exact function_known_of_valid hs hitem
    · intro e he
      obtain ⟨event, hevent, he⟩ := List.mem_filterMap.1 he
      rw [eventEntries_eq hs] at hevent
      obtain ⟨name, -, he⟩ := Option.bind_eq_some_iff.1 he
      cases he
      exact (event_known_iff hs hevent).2 (hunchecked.eventTexts event hevent)

/-- Stalls and crates with an operation, a function, an event whose parameters are one text, and a
relationship whose links have an attribute. -/
def salesDocument (linkType parameters : String) : Json := .object [
  ("model", .array [
    .object [("KL", .string "ST"), ("class_id", .string "C1"), ("class_name", .string "Stall"),
      ("attributes", .array [
        .object [("attribute_name", .string "row"), ("data_type", .string "integer")]]),
      ("operations", .array [.string "open(day: date)"])],
    .object [("KL", .string "CR"), ("class_id", .string "C2"), ("class_name", .string "Crate")]]),
  ("relationships", .array [
    .object [("fromMultiplicity", .string "*"), ("from_class", .string "ST"),
      ("rel_id", .string "R1"), ("toMultiplicity", .string "*"), ("to_class", .string "CR"),
      ("association_attributes", .array [
        .object [("attribute_name", .string "price"), ("data_type", .string linkType)]])]]),
  ("events", .array [
    .object [("event_name", .string "sold"), ("class_id", .string "ST"),
      ("parameters", .string parameters)]])]

theorem sales_types_known :
    issues (salesDocument "real" "amount: integer, note: string") = [] ∧
    (Model.ofDocument (salesDocument "real" "amount: integer, note: string")).TypesKnown := by
  have h : issues (salesDocument "real" "amount: integer, note: string") = [] := by decide +kernel
  exact ⟨h, (valid_types_known_iff _ h).2 ⟨by decide +kernel, by decide +kernel⟩⟩

theorem sales_types_unknown :
    issues (salesDocument "money" "amount: money") = [] ∧
    (Model.ofDocument (salesDocument "money" "amount: money")).associations.map
      (fun c => c.attributes.map Attribute.type) = [[.unknown "money"]] ∧
    (Model.ofDocument (salesDocument "money" "amount: money")).events.map
      (fun e => e.parameters.map Parameter.type) = [[.unknown "money"]] ∧
    ¬ (Model.ofDocument (salesDocument "money" "amount: money")).TypesKnown := by
  refine ⟨by decide +kernel, by decide +kernel, by decide +kernel, fun hknown => ?_⟩
  exact absurd hknown.events (by decide +kernel)

end Document

end ExecutableUml
