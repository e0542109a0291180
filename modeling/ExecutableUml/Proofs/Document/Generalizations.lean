import ExecutableUml.Proofs.Distinct
import ExecutableUml.Proofs.Document.ClassReferences

/-! Which pairs of a supertype and a subtype the model of a valid document has. The check of a
relationship takes its ends from more fields than the model does. A pair that it finds is kept
exactly when the entry names both ends by fields of their own or by `from_class` and `to_class`, or
when the pair is declared once more in a way that the model reads. -/

namespace ExecutableUml

open Text

namespace Document

theorem text_append (entry : Json) (keys more : List String) :
    text entry (keys ++ more) = (text entry keys).or (text entry more) := by
  rw [text, text, text, List.filterMap_append, List.findSome?_append]

/-- The fields that the model reads the ends of a generalization from. -/
theorem generalizationEnds_eq (rel : Json) :
    generalizationEnds rel =
      (text rel (ownSuperKeys ++ ["from_class"]), text rel (ownSubKeys ++ ["to_class"])) := by
  rw [generalizationEnds, text_append, text_append]
  cases text rel ownSuperKeys <;> cases text rel ownSubKeys <;> rfl

def RefersTo (registry : Registry) (ends : Option String × Option String) (s t : ClassId) : Prop :=
  ends.1.bind registry.index = some s ∧ ends.2.bind registry.index = some t

instance (registry : Registry) (ends : Option String × Option String) (s t : ClassId) :
    Decidable (RefersTo registry ends s t) :=
  inferInstanceAs (Decidable (_ ∧ _))

/-- The document declares the pair in a way that the model reads: in its list of generalizations,
or by a relationship that names both ends by the fields of `generalizationEnds`. -/
def Declares (doc : Json) (s t : ClassId) : Prop :=
  (∃ entry ∈ items doc "generalizations",
    RefersTo (Registry.ofDocument doc) (text entry superKeys, text entry subKeys) s t) ∨
  ∃ rel ∈ items doc "relationships", isGeneralization rel = true ∧
    RefersTo (Registry.ofDocument doc) (generalizationEnds rel) s t

theorem RefersTo.index_sub {registry : Registry} {ends : Option String × Option String}
    {s t : ClassId} (h : RefersTo registry ends s t) :
    ∃ reference, registry.index reference = some t := by
  obtain ⟨reference, -, hindex⟩ := Option.bind_eq_some_iff.1 h.2
  exact ⟨reference, hindex⟩

theorem inheritance_pair_iff {registry : Registry} {path : String}
    {ends : Option String × Option String} {s t : ClassId} :
    (∃ i, inheritance registry path ends = some i ∧ i.superIndex = s ∧ i.subIndex = t) ↔
      RefersTo registry ends s t := by
  simp only [inheritance, RefersTo, Option.bind_eq_bind, Option.bind_eq_some_iff]
  constructor
  · rintro ⟨i, ⟨r, hr, a, ha, q, hq, b, hb, hi⟩, rfl, rfl⟩
    cases hi
    exact ⟨⟨r, hr, ha⟩, q, hq, hb⟩
  · rintro ⟨⟨r, hr, ha⟩, q, hq, hb⟩
    exact ⟨_, ⟨r, hr, s, ha, q, hq, t, hb, rfl⟩, rfl, rfl⟩

section Valid

variable {doc : Json} (h : structureFindings doc = [])
include h

theorem make_pair_iff {ends : Option String × Option String} {relId : Option String}
    {source : GeneralizationSource} {s t : ClassId} :
    (∃ g, Generalization.make (Roster.ofDocument doc) ends relId source = some g ∧
        g.superClass = s ∧ g.subClass = t) ↔
      RefersTo (Registry.ofDocument doc) ends s t ∧ s ≠ t := by
  simp only [Generalization.make, RefersTo, resolve_eq_index h, Option.bind_eq_bind,
    Option.bind_eq_some_iff]
  constructor
  · rintro ⟨g, ⟨r, hr, a, ha, q, hq, b, hb, hg⟩, rfl, rfl⟩
    split at hg
    · cases hg
    · rename_i hne
      cases hg
      exact ⟨⟨⟨r, hr, ha⟩, q, hq, hb⟩, hne⟩
  · rintro ⟨⟨⟨r, hr, ha⟩, q, hq, hb⟩, hne⟩
    exact ⟨_, ⟨r, hr, s, ha, q, hq, t, hb, if_neg hne⟩, rfl, rfl⟩

theorem relationship_isObject {rel : Json} (hr : rel ∈ items doc "relationships") :
    rel.isObject = true := by
  obtain ⟨i, hi⟩ := List.mem_iff_getElem?.1 hr
  have hf := relationshipFindings_of_valid h hi
  rw [relationshipFindings] at hf
  split at hf
  · assumption
  · simp [finding] at hf

theorem relationshipEntries_eq : entries doc "relationships" = items doc "relationships" :=
  List.filter_eq_self.2 fun _ hr => relationship_isObject h hr

theorem generalization_isObject {entry : Json} (he : entry ∈ items doc "generalizations") :
    entry.isObject = true := by
  obtain ⟨path, hf⟩ := generalizationFindings_of_valid h he
  rw [generalizationFindings] at hf
  split at hf
  · assumption
  · simp [finding] at hf

/-- The pairs that the checks compare are the pairs that the document declares. -/
theorem inheritances_iff {s t : ClassId} :
    (∃ i ∈ inheritances doc (Registry.ofDocument doc), i.superIndex = s ∧ i.subIndex = t) ↔
      Declares doc s t := by
  constructor
  · rintro ⟨i, hi, hs, ht⟩
    rcases List.mem_append.1 hi with hi | hi
    · obtain ⟨⟨entry, n⟩, hz, hentry⟩ := List.mem_filterMap.1 hi
      simp only at hentry
      split at hentry
      · exact .inl ⟨entry, List.fst_mem_of_mem_zipIdx hz,
          inheritance_pair_iff.1 ⟨i, hentry, hs, ht⟩⟩
      · cases hentry
    · obtain ⟨⟨rel, n⟩, hz, hrel⟩ := List.mem_filterMap.1 hi
      simp only at hrel
      split at hrel
      · rename_i hg
        exact .inr ⟨rel, List.fst_mem_of_mem_zipIdx hz, (Bool.and_eq_true_iff.1 hg).2,
          inheritance_pair_iff.1 ⟨i, hrel, hs, ht⟩⟩
      · cases hrel
  · rintro (⟨entry, he, hpair⟩ | ⟨rel, hr, hg, hpair⟩)
    · obtain ⟨n, hz⟩ := exists_mem_zipIdx he
      obtain ⟨i, hi, hst⟩ := inheritance_pair_iff.2 hpair
      refine ⟨i, List.mem_append_left _ (List.mem_filterMap.2 ⟨(entry, n), hz, ?_⟩), hst⟩
      simp only [generalization_isObject h he, if_true]
      exact hi
    · obtain ⟨n, hz⟩ := exists_mem_zipIdx hr
      obtain ⟨i, hi, hst⟩ := inheritance_pair_iff.2 hpair
      refine ⟨i, List.mem_append_right _ (List.mem_filterMap.2 ⟨(rel, n), hz, ?_⟩), hst⟩
      simp only [relationship_isObject h hr, hg, Bool.and_self, if_true]
      exact hi

/-- The model has the pairs that the document declares, but none of a class with itself. -/
theorem generalization_mem_iff {s t : ClassId} :
    (∃ g ∈ (Model.ofDocument doc).generalizations, g.superClass = s ∧ g.subClass = t) ↔
      Declares doc s t ∧ s ≠ t := by
  constructor
  · rintro ⟨g, hg, hst⟩
    rcases List.mem_append.1 (mem_of_mem_distinctFrom hg) with hg | hg
    · obtain ⟨entry, he, hmake⟩ := List.mem_filterMap.1 hg
      obtain ⟨hpair, hne⟩ := (make_pair_iff h).1 ⟨g, hmake, hst⟩
      exact ⟨.inl ⟨entry, he, hpair⟩, hne⟩
    · obtain ⟨rel, hr, hmake⟩ := List.mem_filterMap.1 hg
      rw [relationshipEntries_eq h] at hr
      rw [Generalization.ofRelationship] at hmake
      split at hmake
      · rename_i hgen
        obtain ⟨hpair, hne⟩ := (make_pair_iff h).1 ⟨g, hmake, hst⟩
        exact ⟨.inr ⟨rel, hr, hgen, hpair⟩, hne⟩
      · cases hmake
  · rintro ⟨hdeclared, hne⟩
    have hmade : ∃ g ∈ (items doc "generalizations").filterMap
          (Generalization.explicit (Roster.ofDocument doc)) ++
        (entries doc "relationships").filterMap
          (Generalization.ofRelationship (Roster.ofDocument doc)),
        g.superClass = s ∧ g.subClass = t := by
      rcases hdeclared with ⟨entry, he, hpair⟩ | ⟨rel, hr, hgen, hpair⟩
      · obtain ⟨g, hg, hst⟩ := (make_pair_iff h).2 ⟨hpair, hne⟩
        exact ⟨g, List.mem_append_left _ (List.mem_filterMap.2 ⟨entry, he, hg⟩), hst⟩
      · obtain ⟨g, hg, hst⟩ := (make_pair_iff h).2 ⟨hpair, hne⟩
        rw [← relationshipEntries_eq h] at hr
        refine ⟨g, List.mem_append_right _ (List.mem_filterMap.2 ⟨rel, hr, ?_⟩), hst⟩
        rw [Generalization.ofRelationship, if_pos hgen]
        exact hg
    obtain ⟨g, hg, rfl, rfl⟩ := hmade
    have hrefl : ∀ a : Generalization, a.samePair a = true := fun a => by
      simp [Generalization.samePair]
    obtain ⟨kept, hkept, hsame⟩ := exists_same_of_mem hrefl hg
    exact ⟨kept, hkept, by simpa [Generalization.samePair] using hsame⟩

/-- A class has one supertype in what a valid document declares. -/
theorem declares_unique {s s' t : ClassId} (hs : Declares doc s t) (hs' : Declares doc s' t) :
    s = s' := by
  have hfirst : ∀ i ∈ inheritances doc (Registry.ofDocument doc), i.subIndex = t →
      ((inheritances doc (Registry.ofDocument doc)).find? fun g => g.subIndex == t).map
        Inheritance.superIndex = some i.superIndex := by
    rintro i hi rfl
    have hf := List.flatMap_eq_nil_iff.1 (inheritanceFindings_of_valid h) i hi
    split at hf
    · rename_i first hfind
      rw [hfind, Option.map_some, beq_iff_eq.1 (check_eq_nil.1 hf)]
    · rename_i hnone
      exact absurd (List.find?_eq_none.1 hnone i hi) (by simp)
  obtain ⟨i, hi, rfl, hi'⟩ := (inheritances_iff h).2 hs
  obtain ⟨j, hj, rfl, hj'⟩ := (inheritances_iff h).2 hs'
  exact Option.some.inj ((hfirst i hi hi').symm.trans (hfirst j hj hj'))

/-- The first supertype of a class is the only one. -/
theorem superOf_eq {s t : ClassId} (hdeclared : Declares doc s t) (hne : s ≠ t) :
    Generalization.superOf (Model.ofDocument doc).generalizations t = some s := by
  obtain ⟨g, hg, -, ht⟩ := (generalization_mem_iff h).2 ⟨hdeclared, hne⟩
  have hsome : ((Model.ofDocument doc).generalizations.find? fun g => g.subClass == t).isSome :=
    List.find?_isSome.2 ⟨g, hg, by simp [ht]⟩
  obtain ⟨first, hfirst⟩ := Option.isSome_iff_exists.1 hsome
  have hsub : first.subClass = t := by simpa using List.find?_some hfirst
  have hpair := ((generalization_mem_iff h).1
    ⟨first, List.mem_of_find?_eq_some hfirst, rfl, hsub⟩).1
  rw [Generalization.superOf, hfirst, Option.map_some, declares_unique h hpair hdeclared]

end Valid

structure Keeps (m : Model) (s t : ClassId) : Prop where
  pair : ∃ g ∈ m.generalizations, g.superClass = s ∧ g.subClass = t
  superClass : ∃ c, m.classes[t]? = some c ∧ c.superClass = some s

theorem keeps_iff_declares {doc : Json} (h : structureFindings doc = []) {s t : ClassId} :
    Keeps (Model.ofDocument doc) s t ↔ Declares doc s t ∧ s ≠ t := by
  constructor
  · intro hkeeps
    exact (generalization_mem_iff h).1 hkeeps.pair
  · rintro ⟨hdeclared, hne⟩
    have hsub : ∃ reference, (Registry.ofDocument doc).index reference = some t := by
      rcases hdeclared with ⟨_, -, hpair⟩ | ⟨_, -, -, hpair⟩
      · exact hpair.index_sub
      · exact hpair.index_sub
    obtain ⟨reference, hindex⟩ := hsub
    obtain ⟨hlt, -⟩ := List.findIdx?_eq_some_iff_getElem.1 hindex
    rw [Registry.ofDocument, List.length_map, ← classEntries_eq h] at hlt
    obtain ⟨pyNames, hclasses⟩ := Model.classes_ofDocument doc
    have hclass := List.getElem?_eq_getElem (hclasses ▸ (by simpa using hlt) :
      t < (Model.ofDocument doc).classes.length)
    refine ⟨(generalization_mem_iff h).2 ⟨hdeclared, hne⟩, _, hclass, ?_⟩
    simp only [hclasses, List.getElem_mapIdx]
    exact superOf_eq h hdeclared hne

/-- The relationship names a supertype and a subtype by fields that the model reads. -/
def NamesBothEnds (rel : Json) : Prop :=
  (text rel (ownSuperKeys ++ ["from_class"])).isSome = true ∧
    (text rel (ownSubKeys ++ ["to_class"])).isSome = true

instance (rel : Json) : Decidable (NamesBothEnds rel) :=
  inferInstanceAs (Decidable (_ ∧ _))

/-- The pair is declared in a way that the model reads, but not by this relationship. -/
def DeclaresElsewhere (doc rel : Json) (s t : ClassId) : Prop :=
  (∃ entry ∈ items doc "generalizations",
    RefersTo (Registry.ofDocument doc) (text entry superKeys, text entry subKeys) s t) ∨
  ∃ other ∈ items doc "relationships", other ≠ rel ∧ isGeneralization other = true ∧
    RefersTo (Registry.ofDocument doc) (generalizationEnds other) s t

/-- Where the model reads both ends, it reads those that were checked. -/
theorem checkedEnds_of_namesBothEnds {rel : Json} (hg : isGeneralization rel = true)
    (hn : NamesBothEnds rel) : checkedEnds rel = generalizationEnds rel := by
  obtain ⟨s, hs⟩ := Option.isSome_iff_exists.1 hn.1
  obtain ⟨t, ht⟩ := Option.isSome_iff_exists.1 hn.2
  rw [checkedEnds, if_pos hg, generalizationEnds_eq, hs, ht]
  rfl

theorem namesBothEnds_of_refersTo {registry : Registry} {rel : Json} {s t : ClassId}
    (h : RefersTo registry (generalizationEnds rel) s t) : NamesBothEnds rel := by
  obtain ⟨hs, ht⟩ := h
  rw [generalizationEnds_eq] at hs ht
  obtain ⟨a, ha, -⟩ := Option.bind_eq_some_iff.1 hs
  obtain ⟨b, hb, -⟩ := Option.bind_eq_some_iff.1 ht
  exact ⟨Option.isSome_iff_exists.2 ⟨a, ha⟩, Option.isSome_iff_exists.2 ⟨b, hb⟩⟩

/-- The pair that was checked for a generalization among the relationships of a valid document is
kept exactly when the entry names both ends by fields that the model reads, or when it is declared
once more. -/
theorem generalization_kept_iff (doc : Json) (h : issues doc = []) (rel : Json)
    (hrel : rel ∈ items doc "relationships") (hgen : isGeneralization rel = true) (s t : ClassId)
    (hends : RefersTo (Registry.ofDocument doc) (checkedEnds rel) s t) (hne : s ≠ t) :
    Keeps (Model.ofDocument doc) s t ↔ NamesBothEnds rel ∨ DeclaresElsewhere doc rel s t := by
  obtain ⟨-, hstructure, -⟩ := findings_eq_nil.1 (issues_eq_nil.1 h)
  rw [keeps_iff_declares hstructure]
  constructor
  · rintro ⟨hentry | ⟨other, hother, hg, hpair⟩, -⟩
    · exact .inr (.inl hentry)
    · by_cases heq : other = rel
      · subst heq
        exact .inl (namesBothEnds_of_refersTo hpair)
      · exact .inr (.inr ⟨other, hother, heq, hg, hpair⟩)
  · rintro (hnames | hentry | ⟨other, hother, -, hg, hpair⟩)
    · rw [checkedEnds_of_namesBothEnds hgen hnames] at hends
      exact ⟨.inr ⟨rel, hrel, hgen, hends⟩, hne⟩
    · exact ⟨.inl hentry, hne⟩
    · exact ⟨.inr ⟨other, hother, hg, hpair⟩, hne⟩

/-- Two kinds of vehicle and one relationship between them. -/
def vehicleDocument (rel : Json) : Json := .object [
  ("model", .array [
    .object [("KL", .string "VE"), ("class_id", .string "C1"), ("class_name", .string "Vehicle")],
    .object [("KL", .string "CA"), ("class_id", .string "C2"), ("class_name", .string "Car")]]),
  ("relationships", .array [rel])]

/-- The supertype has a field of its own, which goes before `from_class`. -/
def parentRelationship : Json := .object [
  ("from_class", .string "CA"), ("is_generalization", .string "TRUE"),
  ("parent", .string "vehicle"), ("rel_id", .string "R1"), ("to_class", .string "C2")]

theorem parent_generalization_kept :
    issues (vehicleDocument parentRelationship) = [] ∧
    Keeps (Model.ofDocument (vehicleDocument parentRelationship)) 0 1 := by
  have h : issues (vehicleDocument parentRelationship) = [] := by decide +kernel
  have hgen : isGeneralization parentRelationship = true := by decide +kernel
  have hends : RefersTo (Registry.ofDocument (vehicleDocument parentRelationship))
      (checkedEnds parentRelationship) 0 1 := by decide +kernel
  have hnames : NamesBothEnds parentRelationship := by decide +kernel
  exact ⟨h, (generalization_kept_iff _ h parentRelationship List.mem_cons_self hgen 0 1 hends
    (by decide)).2 (.inl hnames)⟩

/-- Both ends are spelled in a way that is only checked. -/
def aliasedRelationship : Json := .object [
  ("fromClass", .string "VE"), ("rel_id", .string "R1"), ("toClass", .string "CA"),
  ("type", .string "generalization")]

theorem aliased_generalization_lost :
    issues (vehicleDocument aliasedRelationship) = [] ∧
    isGeneralization aliasedRelationship = true ∧
    RefersTo (Registry.ofDocument (vehicleDocument aliasedRelationship))
      (checkedEnds aliasedRelationship) 0 1 ∧
    ¬ Keeps (Model.ofDocument (vehicleDocument aliasedRelationship)) 0 1 := by
  have hnone : (Model.ofDocument (vehicleDocument aliasedRelationship)).generalizations = [] := by
    decide +kernel
  refine ⟨by decide +kernel, by decide +kernel, by decide +kernel, fun hkeeps => ?_⟩
  obtain ⟨g, hg, -⟩ := hkeeps.pair
  rw [hnone] at hg
  cases hg

end Document

end ExecutableUml
