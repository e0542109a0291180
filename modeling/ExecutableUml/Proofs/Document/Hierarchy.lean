import ExecutableUml.Proofs.Document.Handles

/-! Supertypes and subtypes of the classes of a model. They are stored three times: as pairs, as the
supertype of each class and as the subtypes of each class. Whatever the document, the last two say
the same and only say what the pairs say. A valid document declares no second supertype, so then
nothing of the pairs is left out and all three are one relation. -/

namespace ExecutableUml

open Document

namespace Generalization

theorem ne_of_mem {names : Roster} {doc : Json} {g : Generalization}
    (h : g ∈ ofDocument names doc) : g.superClass ≠ g.subClass := by
  obtain ⟨ends, relId, declaredBy, hmade⟩ := make_of_mem h
  exact (make_eq_some hmade).2.2

end Generalization

namespace Model

def HasSuper (m : Model) (s c : ClassId) : Prop :=
  ∃ k, m.classes[c]? = some k ∧ k.superClass = some s

def HasSub (m : Model) (s c : ClassId) : Prop :=
  ∃ k, m.classes[s]? = some k ∧ c ∈ k.subClasses

def Generalizes (m : Model) (s c : ClassId) : Prop :=
  ∃ g ∈ m.generalizations, g.superClass = s ∧ g.subClass = c

variable {doc : Json}

/-- What a class stores is read off the pairs. -/
theorem hierarchy_of_class {i : ClassId} {k : Class} (h : (ofDocument doc).classes[i]? = some k) :
    k.superClass = Generalization.superOf (ofDocument doc).generalizations i ∧
      k.subClasses = Generalization.subsOf (ofDocument doc).generalizations i := by
  obtain ⟨pyNames, hclasses⟩ := classes_ofDocument doc
  rw [hclasses, List.getElem?_mapIdx] at h
  obtain ⟨entry, -, rfl⟩ := Option.map_eq_some_iff.1 h
  exact ⟨rfl, rfl⟩

theorem exists_class_of_handle {id : ClassId} {g : Generalization}
    (hg : g ∈ (ofDocument doc).generalizations) (h : id ∈ g.handles) :
    ∃ k, (ofDocument doc).classes[id]? = some k := by
  have hlt : id < (ofDocument doc).classes.length := by
    rw [length_classes]
    exact Generalization.handles_ofDocument hg h
  exact ⟨_, List.getElem?_eq_getElem hlt⟩

theorem hasSuper_iff {s c : ClassId} :
    (ofDocument doc).HasSuper s c ↔
      Generalization.superOf (ofDocument doc).generalizations c = some s := by
  constructor
  · rintro ⟨k, hk, hsuper⟩
    rw [← (hierarchy_of_class hk).1, hsuper]
  · intro hsuper
    obtain ⟨g, hg, -, rfl⟩ := Generalization.mem_of_superOf hsuper
    obtain ⟨k, hk⟩ := exists_class_of_handle hg g.subClass_mem_handles
    exact ⟨k, hk, (hierarchy_of_class hk).1.trans hsuper⟩

theorem hasSub_iff {s c : ClassId} :
    (ofDocument doc).HasSub s c ↔
      Generalization.superOf (ofDocument doc).generalizations c = some s := by
  constructor
  · rintro ⟨k, hk, hsub⟩
    rw [(hierarchy_of_class hk).2] at hsub
    exact Generalization.mem_subsOf.1 hsub
  · intro hsuper
    obtain ⟨g, hg, rfl, -⟩ := Generalization.mem_of_superOf hsuper
    obtain ⟨k, hk⟩ := exists_class_of_handle hg g.superClass_mem_handles
    refine ⟨k, hk, ?_⟩
    rw [(hierarchy_of_class hk).2]
    exact Generalization.mem_subsOf.2 hsuper

/-- Supertypes and subtypes are linked both ways, by pairs that are there once. -/
structure LinkedHierarchy (m : Model) : Prop where
  pairs : Generalization.PairsDiffer m.generalizations
  irreflexive : ∀ g ∈ m.generalizations, g.superClass ≠ g.subClass
  linked : ∀ s c, m.HasSuper s c ↔ m.HasSub s c
  subClasses : ∀ k ∈ m.classes, k.subClasses.Nodup
  declared : ∀ s c, m.HasSuper s c → m.Generalizes s c

theorem linkedHierarchy_ofDocument (doc : Json) : (ofDocument doc).LinkedHierarchy where
  pairs := Generalization.pairsDiffer_ofDocument _ doc
  irreflexive _ hg := Generalization.ne_of_mem hg
  linked _ _ := hasSuper_iff.trans hasSub_iff.symm
  subClasses k hk := by
    obtain ⟨i, hi⟩ := List.mem_iff_getElem?.1 hk
    rw [(hierarchy_of_class hi).2]
    exact Generalization.subsOf_nodup (Generalization.pairsDiffer_ofDocument _ doc) i
  declared _ _ h := Generalization.mem_of_superOf (hasSuper_iff.1 h)

/-- In a valid document the first supertype of a class is its only one. -/
theorem generalizes_iff_hasSuper (h : structureFindings doc = []) {s c : ClassId} :
    (ofDocument doc).Generalizes s c ↔ (ofDocument doc).HasSuper s c := by
  constructor
  · intro hpair
    obtain ⟨hdeclared, hne⟩ := (generalization_mem_iff h).1 hpair
    exact hasSuper_iff.2 (superOf_eq h hdeclared hne)
  · exact (linkedHierarchy_ofDocument doc).declared s c

/-- Of any document the model has its supertypes and subtypes linked both ways, and of a valid one
these are all its generalizations. -/
theorem ofDocument_hierarchy (doc : Json) :
    (ofDocument doc).LinkedHierarchy ∧
      (issues doc = [] → ∀ s c,
        (ofDocument doc).Generalizes s c ↔ (ofDocument doc).HasSuper s c) := by
  refine ⟨linkedHierarchy_ofDocument doc, fun h s c => ?_⟩
  obtain ⟨-, hstructure, -⟩ := findings_eq_nil.1 (issues_eq_nil.1 h)
  exact generalizes_iff_hasSuper hstructure

def fleetDocument : Json := .object [
  ("generalizations", .array [.object [("sub", .string "ca"), ("super", .string "Vehicle")]]),
  ("model", .array [
    .object [("KL", .string "CA"), ("class_id", .string "C1"), ("class_name", .string "Car")],
    .object [("KL", .string "VE"), ("class_id", .string "C2"), ("class_name", .string "Vehicle")],
    .object [("KL", .string "TR"), ("class_id", .string "C3"), ("class_name", .string "Truck")]]),
  ("relationships", .array [
    .object [("from_class", .string "VE"), ("rel_id", .string "R1"), ("to_class", .string "C1"),
      ("type", .string "inheritance")],
    .object [("child", .string "TR"), ("parent", .string "VE"), ("rel_id", .string "R2")]])]

theorem fleet_hierarchy :
    issues fleetDocument = [] ∧
    ((ofDocument fleetDocument).generalizations.map fun g => (g.superClass, g.subClass)) =
      [(1, 0), (1, 2)] ∧
    (ofDocument fleetDocument).HasSuper 1 2 ∧ (ofDocument fleetDocument).HasSub 1 2 := by
  have h : issues fleetDocument = [] := by decide +kernel
  have hpairs : ((ofDocument fleetDocument).generalizations.map fun g =>
      (g.superClass, g.subClass)) = [(1, 0), (1, 2)] := by decide +kernel
  obtain ⟨hlinked, hall⟩ := ofDocument_hierarchy fleetDocument
  have hpair : (ofDocument fleetDocument).Generalizes 1 2 := by
    have hmem : ((1, 2) : ClassId × ClassId) ∈ (ofDocument fleetDocument).generalizations.map
        fun g => (g.superClass, g.subClass) := by
      rw [hpairs]
      decide
    obtain ⟨g, hg, heq⟩ := List.mem_map.1 hmem
    exact ⟨g, hg, Prod.mk.inj heq⟩
  have hsuper := (hall h 1 2).1 hpair
  exact ⟨h, hpairs, hsuper, (hlinked.linked 1 2).1 hsuper⟩

end Model

end ExecutableUml
