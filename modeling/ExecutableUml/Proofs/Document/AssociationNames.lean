import ExecutableUml.Proofs.Document.ResolvedReferences
import ExecutableUml.Proofs.Python.Names
import ExecutableUml.Proofs.Text.Split

/-! The classes made for many-to-many relationships, as the checks predict them and as the model has
them. Everything predicted is made. What is made but not predicted belongs to a relationship that
names a class for its links where there is no class of that name, so the two sides have the same
names exactly when every such reference is known. -/

namespace ExecutableUml

open Text

namespace Document

/-- The lower case of a relationship id does not depend on what is before it, and it has no
underscore. -/
theorem lowerFrom_relationshipId {relId : String} (h : isRelationshipId relId = true) :
    (∀ before, lowerFrom before relId.toList = lowerFrom [] relId.toList) ∧
      '_' ∉ lowerFrom [] relId.toList := by
  unfold isRelationshipId at h
  split at h
  · rename_i c digits hlist
    simp only [Bool.and_eq_true, Bool.or_eq_true, beq_iff_eq, List.all_eq_true] at h
    obtain ⟨⟨hc, -⟩, hdigits⟩ := h
    have hlower : ∀ before, lowerFrom before relId.toList = 'r' :: digits := by
      intro before
      rw [hlist, lowerFrom, lowerFrom_numeral _ fun d hd => by simp [isNumeralChar, hdigits d hd]]
      rcases hc with rfl | rfl <;> rfl
    refine ⟨fun before => by rw [hlower, hlower], ?_⟩
    rw [hlower]
    intro hmem
    rcases List.mem_cons.1 hmem with hr | hmem
    · cases hr
    · exact absurd (hdigits '_' hmem) (by decide)
  · cases h

/-- Names that end with the id of a relationship are equal in lower case only if the ids are. -/
theorem lower_relId_eq {a b relId relId' : String} (h : isRelationshipId relId = true)
    (h' : isRelationshipId relId' = true)
    (heq : lower (a ++ "_" ++ relId) = lower (b ++ "_" ++ relId')) : lower relId = lower relId' := by
  have hparts : ∀ {s r : String}, isRelationshipId r = true →
      (lower (s ++ "_" ++ r)).toList = lowerFrom [] s.toList ++ '_' :: lowerFrom [] r.toList := by
    intro s r hr
    have htext : (s ++ "_" ++ r).toList = s.toList ++ '_' :: r.toList := by simp
    rw [lower, String.toList_ofList, htext, lowerFrom_append_underscore,
      (lowerFrom_relationshipId hr).1]
  have hlists := congrArg String.toList heq
  rw [hparts h, hparts h'] at hlists
  exact congrArg String.ofList (eq_of_append_sep (lowerFrom_relationshipId h).2
    (lowerFrom_relationshipId h').2 hlists)

/-- Each end of the relationship may have many of the other, and it is no generalization. -/
def ManyToMany (rel : Json) : Prop :=
  isGeneralization rel = false ∧ isMany ((text rel fromMultiplicityKeys).getD "") = true ∧
    isMany ((text rel toMultiplicityKeys).getD "") = true

instance (rel : Json) : Decidable (ManyToMany rel) :=
  inferInstanceAs (Decidable (_ ∧ _ ∧ _))

/-- A class is made for the links of the relationship: it is many-to-many and names none. -/
def GetsClass (doc rel : Json) : Prop :=
  ManyToMany rel ∧ (text rel associationKeys).bind (Registry.ofDocument doc).index = none

instance (doc rel : Json) : Decidable (GetsClass doc rel) :=
  inferInstanceAs (Decidable (_ ∧ _))

/-- The lower case names that the checks add to the classes of the document for its
relationships. -/
def predictedAssociations (doc : Json) : List String :=
  (entries doc "relationships").filterMap (predictedAssociation doc (Registry.ofDocument doc))

/-- The lower case names of the classes that the model has for its relationships. -/
def madeAssociations (doc : Json) : List String :=
  (Model.ofDocument doc).associations.map fun a => lower a.name

theorem isManyToMany_ofEntry (names : Roster) (rel : Json) :
    (Relationship.ofEntry names rel).isManyToMany = true ↔ ManyToMany rel := by
  cases hg : isGeneralization rel with
  | true => simp [Relationship.isManyToMany, Relationship.ofEntry, ManyToMany, hg, isMany, lower,
      lowerFrom, occursIn]
  | false => simp [Relationship.isManyToMany, Relationship.ofEntry, ManyToMany, hg]

/-- A class is made for a many-to-many relationship with known ends that names none. -/
theorem linkClass_made_iff {names : Roster} {rel : Json} {i j : ClassId} :
    LinkClass.ofEntry names rel = .made i j ↔
      ManyToMany rel ∧ names.field rel associationKeys = none ∧
        names.field rel fromKeys = some i ∧ names.field rel toKeys = some j := by
  rw [← isManyToMany_ofEntry names rel, LinkClass.ofEntry]
  have hsource : (Relationship.ofEntry names rel).source = names.field rel fromKeys := rfl
  have htarget : (Relationship.ofEntry names rel).target = names.field rel toKeys := rfl
  rw [hsource, htarget]
  cases (Relationship.ofEntry names rel).isManyToMany with
  | false => simp
  | true =>
    cases names.field rel associationKeys with
    | some id => simp
    | none =>
      cases names.field rel fromKeys with
      | none => simp
      | some s =>
        cases names.field rel toKeys with
        | none => simp
        | some t => simp

theorem AssociationClass.made_of_ofEntry {names : Roster} {rel : Json} {a : AssociationClass}
    (h : AssociationClass.ofEntry names rel = some a) :
    ∃ i j, LinkClass.ofEntry names rel = .made i j ∧
      a.name = associationName names ((text rel relIdKeys).getD "") i j ∧
      a.attributes = (entries rel "association_attributes").map (Attribute.ofEntry names) := by
  unfold AssociationClass.ofEntry at h
  split at h
  · rename_i i j hmade
    cases h
    exact ⟨i, j, hmade, rfl, rfl⟩
  · cases h

/-- The classes that the model has for its relationships are made from them, but for the names that
they have in the code. -/
theorem exists_association_iff {doc : Json} (P : AssociationClass → Prop)
    (hP : ∀ a pyName, P { a with pyName := pyName } ↔ P a) :
    (∃ b ∈ (Model.ofDocument doc).associations, P b) ↔
      ∃ rel ∈ entries doc "relationships", ∃ a,
        AssociationClass.ofEntry (Roster.ofDocument doc) rel = some a ∧ P a := by
  constructor
  · rintro ⟨b, hb, hPb⟩
    obtain ⟨i, hi, rfl⟩ := List.mem_mapIdx.1 hb
    obtain ⟨rel, hrel, ha⟩ := List.mem_filterMap.1 (List.getElem_mem hi)
    exact ⟨rel, hrel, _, ha, (hP _ _).1 hPb⟩
  · rintro ⟨rel, hrel, a, ha, hPa⟩
    obtain ⟨i, hi, rfl⟩ := List.mem_iff_getElem.1 (List.mem_filterMap.2 ⟨rel, hrel, ha⟩)
    exact ⟨_, List.mem_mapIdx.2 ⟨i, hi, rfl⟩, (hP _ _).2 hPa⟩

theorem text_of_predicted {doc rel : Json} {registry : Registry} {key : String}
    (hp : predictedAssociation doc registry rel = some key) :
    text rel associationKeys = none := by
  obtain ⟨u, hguard, -⟩ := Option.bind_eq_some_iff.1 hp
  replace hguard := of_guard hguard
  simp only [Bool.and_eq_true, Option.isNone_iff_eq_none] at hguard
  exact hguard.1.1.2

section Valid

variable {doc rel : Json} (h : structureFindings doc = [])
include h

theorem classNameAt_of_field {keys : List String} {i : ClassId}
    (hi : (Roster.ofDocument doc).field rel keys = some i) :
    ∃ reference, text rel keys = some reference ∧
      (Registry.ofDocument doc).index reference = some i ∧
      classNameAt doc i = some ((Roster.ofDocument doc).name i) := by
  obtain ⟨reference, htext, hindex⟩ := Option.bind_eq_some_iff.1 hi
  rw [resolve_eq_index h] at hindex
  obtain ⟨hlt, -⟩ := List.findIdx?_eq_some_iff_getElem.1 hindex
  rw [Registry.ofDocument, List.length_map] at hlt
  obtain ⟨⟨name, hname⟩, -⟩ := class_texts h (List.getElem_mem hlt)
  have hat : classNameAt doc i = some name := by
    rw [classNameAt, List.getElem?_eq_getElem hlt, Option.bind_some, hname]
  refine ⟨reference, htext, hindex, ?_⟩
  rw [name_eq_classNameAt h, hat, Option.getD_some]

/-- A class that is made is predicted, if the relationship does not name one. -/
theorem predictedAssociation_of_made (hrel : rel ∈ items doc "relationships")
    (hnone : text rel associationKeys = none) {a : AssociationClass}
    (ha : AssociationClass.ofEntry (Roster.ofDocument doc) rel = some a) :
    predictedAssociation doc (Registry.ofDocument doc) rel = some (lower a.name) := by
  obtain ⟨i, j, hmade, hname, -⟩ := AssociationClass.made_of_ofEntry ha
  obtain ⟨⟨hg, hfrom, hto⟩, -, hi, hj⟩ := linkClass_made_iff.1 hmade
  obtain ⟨r, hr, hri, hni⟩ := classNameAt_of_field h hi
  obtain ⟨q, hq, hqj, hnj⟩ := classNameAt_of_field h hj
  obtain ⟨n, hn⟩ := List.mem_iff_getElem?.1 hrel
  obtain ⟨relId, htext, -, -⟩ := relId_of_valid h hn
  rw [htext, Option.getD_some] at hname
  have hguard : (!isGeneralization rel && (text rel associationKeys).isNone &&
      isMany ((text rel fromMultiplicityKeys).getD "") &&
      isMany ((text rel toMultiplicityKeys).getD "")) = true := by
    rw [hg, hnone, hfrom, hto]
    rfl
  have hends : checkedEnds rel = (text rel fromKeys, text rel toKeys) := by
    rw [checkedEnds, hg]
    rfl
  rw [predictedAssociation, guard, if_pos hguard, hends, hr, hq, htext, hname, associationName]
  simp [hri, hqj, hni, hnj]

/-- The id of its relationship is the end of the name of a class made for it. -/
theorem association_name_of_valid (hrel : rel ∈ items doc "relationships") {a : AssociationClass}
    (ha : AssociationClass.ofEntry (Roster.ofDocument doc) rel = some a) :
    ∃ front relId, a.name = front ++ "_" ++ relId ∧ text rel relIdKeys = some relId ∧
      isRelationshipId relId = true := by
  obtain ⟨i, j, -, hname, -⟩ := AssociationClass.made_of_ofEntry ha
  obtain ⟨n, hn⟩ := List.mem_iff_getElem?.1 hrel
  obtain ⟨relId, htext, hform, -⟩ := relId_of_valid h hn
  rw [htext, Option.getD_some, associationName] at hname
  exact ⟨_, relId, hname, htext, hform⟩

/-- No two relationships have a class of the same name made for them. -/
theorem relationship_of_association_name {rel' : Json} (hrel : rel ∈ items doc "relationships")
    (hrel' : rel' ∈ items doc "relationships") {a a' : AssociationClass}
    (ha : AssociationClass.ofEntry (Roster.ofDocument doc) rel = some a)
    (ha' : AssociationClass.ofEntry (Roster.ofDocument doc) rel' = some a')
    (heq : lower a.name = lower a'.name) : rel = rel' := by
  obtain ⟨front, relId, hname, htext, hform⟩ := association_name_of_valid h hrel ha
  obtain ⟨front', relId', hname', htext', hform'⟩ := association_name_of_valid h hrel' ha'
  rw [hname, hname'] at heq
  refine entry_eq_of_lower_eq ?_ hrel htext hrel' htext' (lower_relId_eq hform hform' heq)
  intro i entry value hi hvalue
  obtain ⟨declared, hdeclared, -, hearlier⟩ := relId_of_valid h hi
  rw [hvalue, Option.some.injEq] at hdeclared
  rwa [hdeclared]

theorem field_eq_index (keys : List String) : (Roster.ofDocument doc).field rel keys =
    (text rel keys).bind (Registry.ofDocument doc).index := by
  rw [Roster.field]
  cases text rel keys with
  | none => rw [Option.bind_none, Option.bind_none]
  | some reference => rw [Option.bind_some, Option.bind_some, resolve_eq_index h]

/-- The ends of a relationship are known, so a class is made for its links unless it names one that
there is. -/
theorem exists_made_iff (hrel : rel ∈ items doc "relationships") :
    (∃ a, AssociationClass.ofEntry (Roster.ofDocument doc) rel = some a) ↔ GetsClass doc rel := by
  have hfield := @field_eq_index doc rel h associationKeys
  constructor
  · rintro ⟨a, ha⟩
    obtain ⟨i, j, hmade, -⟩ := AssociationClass.made_of_ofEntry ha
    obtain ⟨hmany, hnone, -, -⟩ := linkClass_made_iff.1 hmade
    exact ⟨hmany, hfield.symm.trans hnone⟩
  · rintro ⟨hmany, hnone⟩
    obtain ⟨⟨s, hs, hsr⟩, t, ht, htr⟩ := ends_of_valid h hrel hmany.1
    obtain ⟨-, i, -, -, hi, -⟩ := resolved_field h hs hsr
    obtain ⟨-, j, -, -, hj, -⟩ := resolved_field h ht htr
    obtain ⟨a, ha, -⟩ := AssociationClass.ofEntry_made
      (linkClass_made_iff.2 ⟨hmany, hfield.trans hnone, hi, hj⟩)
    exact ⟨a, ha⟩

theorem mem_predictedAssociations {key : String} :
    key ∈ predictedAssociations doc ↔
      ∃ rel ∈ items doc "relationships",
        predictedAssociation doc (Registry.ofDocument doc) rel = some key := by
  rw [predictedAssociations, relationshipEntries_eq h, List.mem_filterMap]

theorem mem_madeAssociations {key : String} :
    key ∈ madeAssociations doc ↔
      ∃ rel ∈ items doc "relationships", ∃ a,
        AssociationClass.ofEntry (Roster.ofDocument doc) rel = some a ∧ lower a.name = key := by
  rw [← relationshipEntries_eq h, madeAssociations, List.mem_map]
  exact exists_association_iff (fun a => lower a.name = key) fun _ _ => Iff.rfl

end Valid

/-- In a valid document every class that the checks predict is made. The two sides have the same
names exactly when each many-to-many relationship that names a class for its links names one that
there is. -/
theorem associations_predicted_iff (doc : Json) (h : issues doc = []) :
    (references doc).classes = (Registry.ofDocument doc).flatten ++ predictedAssociations doc ∧
    (∀ key ∈ predictedAssociations doc, key ∈ madeAssociations doc) ∧
    ((∀ key, key ∈ predictedAssociations doc ↔ key ∈ madeAssociations doc) ↔
      ∀ rel ∈ items doc "relationships", ManyToMany rel →
        (text rel associationKeys).all (Registry.ofDocument doc).resolves = true) := by
  obtain ⟨-, hs, -⟩ := findings_eq_nil.1 (issues_eq_nil.1 h)
  have hmade : ∀ key ∈ predictedAssociations doc, key ∈ madeAssociations doc := by
    intro key hkey
    obtain ⟨rel, hrel, hp⟩ := (mem_predictedAssociations hs).1 hkey
    obtain ⟨a, ha, -, hlower⟩ := predictedAssociation_made hs hp
    exact (mem_madeAssociations hs).2 ⟨rel, hrel, a, ha, hlower⟩
  refine ⟨rfl, hmade, ?_, ?_⟩
  · intro hsame rel hrel hmany
    rw [Option.all_eq_true]
    intro r hr
    by_contra hunknown
    have hgets : GetsClass doc rel := ⟨hmany, by simpa [Registry.resolves, hr] using hunknown⟩
    obtain ⟨a, ha⟩ := (exists_made_iff hs hrel).2 hgets
    have hkey := (hsame (lower a.name)).2 ((mem_madeAssociations hs).2 ⟨rel, hrel, a, ha, rfl⟩)
    obtain ⟨rel', hrel', hp⟩ := (mem_predictedAssociations hs).1 hkey
    obtain ⟨a', ha', -, hlower⟩ := predictedAssociation_made hs hp
    -- the relationship that the name was predicted for is the same one, and it names no class
    have hrels := relationship_of_association_name hs hrel' hrel ha' ha hlower
    rw [hrels] at hp
    rw [text_of_predicted hp] at hr
    cases hr
  · intro hknown key
    refine ⟨hmade key, fun hkey => ?_⟩
    obtain ⟨rel, hrel, a, ha, rfl⟩ := (mem_madeAssociations hs).1 hkey
    obtain ⟨hmany, hnone⟩ := (exists_made_iff hs hrel).1 ⟨a, ha⟩
    refine (mem_predictedAssociations hs).2 ⟨rel, hrel, ?_⟩
    apply predictedAssociation_of_made hs hrel _ ha
    cases hr : text rel associationKeys with
    | none => rfl
    | some r =>
      obtain ⟨k, hk⟩ := Option.isSome_iff_exists.1
        (Option.all_eq_true _ _ |>.1 (hknown rel hrel hmany) r hr)
      rw [hr, Option.bind_some, hk] at hnone
      cases hnone

def tradeDocument (linkClass : String) : Json := .object [
  ("model", .array [
    .object [("KL", .string "ST"), ("class_id", .string "C1"), ("class_name", .string "Stall")],
    .object [("KL", .string "CR"), ("class_id", .string "C2"), ("class_name", .string "Crate")],
    .object [("KL", .string "PE"), ("class_id", .string "C3"), ("class_name", .string "Permit")]]),
  ("relationships", .array [
    .object [("association_class", .string linkClass), ("fromMultiplicity", .string "*"),
      ("from_class", .string "ST"), ("rel_id", .string "R1"), ("toMultiplicity", .string "one_Star"),
      ("to_class", .string "crate")],
    .object [("fromMultiplicity", .string "*"), ("from_class", .string "C1"),
      ("rel_id", .string "r2"), ("toMultiplicity", .string "1..*"), ("to_class", .string "CR")]])]

theorem permit_associations_predicted :
    issues (tradeDocument "pe") = [] ∧
    (∀ key, key ∈ predictedAssociations (tradeDocument "pe") ↔
      key ∈ madeAssociations (tradeDocument "pe")) ∧
    madeAssociations (tradeDocument "pe") = ["stall_crate_r2"] := by
  have h : issues (tradeDocument "pe") = [] := by decide +kernel
  exact ⟨h, (associations_predicted_iff _ h).2.2.2 (by decide +kernel), by decide +kernel⟩

theorem licence_association_unpredicted :
    issues (tradeDocument "Licence") = [] ∧
    madeAssociations (tradeDocument "Licence") = ["stall_crate_r1", "stall_crate_r2"] ∧
    ¬ ∀ key, key ∈ predictedAssociations (tradeDocument "Licence") ↔
      key ∈ madeAssociations (tradeDocument "Licence") := by
  have hmade : madeAssociations (tradeDocument "Licence") = ["stall_crate_r1", "stall_crate_r2"] := by
    decide +kernel
  have hpredicted : predictedAssociations (tradeDocument "Licence") = ["stall_crate_r2"] := by
    decide +kernel
  refine ⟨by decide +kernel, hmade, fun hsame => ?_⟩
  have hfirst := (hsame "stall_crate_r1").2 (by rw [hmade]; exact List.mem_cons_self)
  rw [hpredicted] at hfirst
  revert hfirst
  decide

end Document

end ExecutableUml
