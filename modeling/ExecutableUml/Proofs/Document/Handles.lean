import ExecutableUml.Proofs.Document.ResolvedReferences

/-! Handles of classes. Whatever the document, every place of a class that its model stores is a
place in the list of classes: each of them was found in the roster, which has one row for each
class. -/

namespace ExecutableUml

open Document

theorem Roster.field_lt {names : Roster} {entry : Json} {keys : List String} {id : ClassId}
    (h : names.field entry keys = some id) : id < names.length := by
  obtain ⟨reference, -, hid⟩ := Option.bind_eq_some_iff.1 h
  exact ClassNaming.resolve_lt hid

theorem Model.length_classes (doc : Json) :
    (ofDocument doc).classes.length = (Roster.ofDocument doc).length := by
  obtain ⟨pyNames, hclasses⟩ := classes_ofDocument doc
  rw [hclasses, List.length_mapIdx, Roster.ofDocument, List.length_map]

def Attribute.handles (a : Attribute) : List ClassId := a.relatedClass.toList

theorem Attribute.handles_ofEntry {names : Roster} {entry : Json} {id : ClassId}
    (h : id ∈ (ofEntry names entry).handles) : id < names.length :=
  Roster.field_lt (Option.mem_toList.1 h)

def Class.handles (c : Class) : List ClassId :=
  c.attributes.flatMap Attribute.handles ++ c.superClass.toList ++ c.subClasses

def Event.handles (e : Event) : List ClassId := e.owner.toList

theorem Event.handles_ofEntry {names : Roster} {entry : Json} {e : Event}
    (he : ofEntry names entry = some e) {id : ClassId} (h : id ∈ e.handles) :
    id < names.length := by
  obtain ⟨name, -, hmade⟩ := Option.bind_eq_some_iff.1 he
  cases hmade
  exact Roster.field_lt (Option.mem_toList.1 h)

def Relationship.handles (r : Relationship) : List ClassId := r.source.toList ++ r.target.toList

theorem Relationship.handles_ofEntry {names : Roster} {entry : Json} {id : ClassId}
    (h : id ∈ (withAssociation names entry).handles) : id < names.length := by
  obtain ⟨association, heq⟩ := withAssociation_eq names entry
  rw [heq] at h
  rcases List.mem_append.1 h with h | h
  · exact Roster.field_lt (Option.mem_toList.1 h)
  · exact Roster.field_lt (Option.mem_toList.1 h)

/-- The classes whose names are read for the class that stands for the links of a relationship. -/
def LinkClass.handles : LinkClass → List ClassId
  | .none => []
  | .named id => [id]
  | .made source target => [source, target]

theorem LinkClass.handles_ofEntry {names : Roster} {entry : Json} {id : ClassId}
    (h : id ∈ (ofEntry names entry).handles) : id < names.length := by
  rw [ofEntry] at h
  split at h
  · split at h
    · rename_i named hnamed
      rw [List.mem_singleton.1 h]
      exact Roster.field_lt hnamed
    · rename_i source target _ hsource htarget
      rcases List.mem_pair.1 h with rfl | rfl
      · exact Roster.field_lt hsource
      · exact Roster.field_lt htarget
    · cases h
  · cases h

def AssociationClass.handles (a : AssociationClass) : List ClassId :=
  [a.source, a.target] ++ a.attributes.flatMap Attribute.handles

theorem AssociationClass.handles_ofEntry {names : Roster} {entry : Json} {a : AssociationClass}
    (ha : ofEntry names entry = some a) {id : ClassId} (h : id ∈ a.handles) :
    id < names.length := by
  unfold ofEntry at ha
  split at ha
  · rename_i source target hmade
    cases ha
    rcases List.mem_append.1 h with h | h
    · have hlink : id ∈ (LinkClass.ofEntry names entry).handles := hmade ▸ h
      exact LinkClass.handles_ofEntry hlink
    · obtain ⟨attr, hattr, hid⟩ := List.mem_flatMap.1 h
      obtain ⟨item, -, rfl⟩ := List.mem_map.1 hattr
      exact Attribute.handles_ofEntry hid
  · cases ha

namespace Generalization

def handles (g : Generalization) : List ClassId := [g.superClass, g.subClass]

theorem superClass_mem_handles (g : Generalization) : g.superClass ∈ g.handles :=
  List.mem_cons_self

theorem subClass_mem_handles (g : Generalization) : g.subClass ∈ g.handles :=
  List.mem_cons_of_mem _ List.mem_cons_self

theorem handles_make {names : Roster} {ends : Option String × Option String}
    {relId : Option String} {declaredBy : GeneralizationSource} {g : Generalization}
    (hg : make names ends relId declaredBy = some g) {id : ClassId} (h : id ∈ g.handles) :
    id < names.length := by
  obtain ⟨hsuper, hsub, -⟩ := make_eq_some hg
  rcases List.mem_pair.1 h with rfl | rfl
  · exact hsuper
  · exact hsub

theorem handles_ofDocument {names : Roster} {doc : Json} {g : Generalization}
    (hg : g ∈ ofDocument names doc) {id : ClassId} (h : id ∈ g.handles) : id < names.length := by
  obtain ⟨ends, relId, declaredBy, hmade⟩ := make_of_mem hg
  exact handles_make hmade h

end Generalization

/-- Every handle that a model stores. -/
def Model.handles (m : Model) : List ClassId :=
  m.classes.flatMap Class.handles ++ m.relationships.flatMap Relationship.handles ++
  m.generalizations.flatMap Generalization.handles ++ m.events.flatMap Event.handles ++
  m.associations.flatMap AssociationClass.handles

theorem Class.handles_ofDocument {doc : Json} {c : Class} (hc : c ∈ (Model.ofDocument doc).classes)
    {id : ClassId} (h : id ∈ c.handles) : id < (Roster.ofDocument doc).length := by
  obtain ⟨i, hi, pyNames, rfl⟩ := Model.exists_entry_of_mem hc
  have hpair : ∀ {s t : ClassId}, Generalization.superOf
      (Generalization.ofDocument (Roster.ofDocument doc) doc) t = some s →
      s < (Roster.ofDocument doc).length ∧ t < (Roster.ofDocument doc).length := by
    intro s t hsuper
    obtain ⟨g, hg, rfl, rfl⟩ := Generalization.mem_of_superOf hsuper
    exact ⟨Generalization.handles_ofDocument hg g.superClass_mem_handles,
      Generalization.handles_ofDocument hg g.subClass_mem_handles⟩
  rcases List.mem_append.1 h with h | h
  · rcases List.mem_append.1 h with h | h
    · obtain ⟨attr, hattr, hid⟩ := List.mem_flatMap.1 h
      obtain ⟨item, -, rfl⟩ := List.mem_map.1 hattr
      exact Attribute.handles_ofEntry hid
    · exact (hpair (Option.mem_toList.1 h)).1
  · exact (hpair (Generalization.mem_subsOf.1 h)).2

/-- Every handle that the model of a document stores is the place of one of its classes. -/
theorem Model.handles_lt {doc : Json} {id : ClassId} (h : id ∈ (ofDocument doc).handles) :
    id < (ofDocument doc).classes.length := by
  rw [length_classes]
  simp only [handles, List.mem_append, List.mem_flatMap] at h
  rcases h with (((⟨c, hc, h⟩ | ⟨r, hr, h⟩) | ⟨g, hg, h⟩) | ⟨e, he, h⟩) | ⟨a, ha, h⟩
  · exact Class.handles_ofDocument hc h
  · obtain ⟨entry, -, rfl⟩ := List.mem_map.1 hr
    exact Relationship.handles_ofEntry h
  · exact Generalization.handles_ofDocument hg h
  · obtain ⟨entry, -, hmade⟩ := List.mem_filterMap.1 he
    exact Event.handles_ofEntry hmade h
  · obtain ⟨i, hi, rfl⟩ := List.mem_mapIdx.1 ha
    obtain ⟨rel, -, hmade⟩ := List.mem_filterMap.1 (List.getElem_mem hi)
    exact AssociationClass.handles_ofEntry hmade h

end ExecutableUml
