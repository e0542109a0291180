import ExecutableUml.Action.Scope
import ExecutableUml.Proofs.Document.Texts
import ExecutableUml.Proofs.Document.Valid
import ExecutableUml.Proofs.Document.Wiring
import ExecutableUml.Proofs.Lists

/-! In a valid document the registry of the checks and the roster of the model find the same class
for every reference, and every class that action text may name is in the table of symbols. -/

namespace ExecutableUml

open Text ExecutableUml.Action

theorem of_guard {p : Prop} [Decidable p] {u : Unit} (h : (guard p : Option Unit) = some u) :
    p := by
  by_cases hp : p
  · exact hp
  · have hnone : (guard p : Option Unit) = none := if_neg hp
    rw [hnone] at h
    cases h

namespace Document

theorem empty_not_mem_keysOf (entry : Json) : "" ∉ Registry.keysOf entry := by
  intro h
  obtain ⟨t, ht, he⟩ := List.mem_map.1 h
  obtain ⟨key, -, hk⟩ := List.mem_filterMap.1 ht
  exact text_ne_empty hk (lower_eq_empty.1 he)

/-- A missing id is the name over again, which adds no key. -/
theorem isNamed_ofEntry {entry : Json} {name kl : String}
    (hn : text entry ["class_name"] = some name) (hk : text entry ["KL"] = some kl) (w : String) :
    (ClassNaming.ofEntry entry).isNamed w = (Registry.keysOf entry).contains w := by
  have hkeys : Registry.keysOf entry =
      (text entry ["class_id"]).toList.map lower ++ [lower name, lower kl] := by
    cases hi : text entry ["class_id"] <;> simp [Registry.keysOf, hi, hn, hk]
  rw [hkeys, Bool.eq_iff_iff, List.contains_iff_mem]
  cases hi : text entry ["class_id"] with
  | none =>
    simp only [ClassNaming.isNamed, ClassNaming.ofEntry, hn, hk, hi, Option.getD_some,
      Option.getD_none, Bool.or_eq_true, beq_iff_eq, Option.toList_none, List.map_nil,
      List.nil_append, List.mem_cons, List.not_mem_nil, or_false, or_self, @eq_comm _ w]
  | some id =>
    simp only [ClassNaming.isNamed, ClassNaming.ofEntry, hn, hk, hi, Option.getD_some,
      Bool.or_eq_true, beq_iff_eq, Option.toList_some, List.map_cons, List.map_nil,
      List.cons_append, List.nil_append, List.mem_cons, List.not_mem_nil, or_false, or_assoc,
      @eq_comm _ w]

/-- The roster and the registry agree on every reference. -/
theorem resolve_eq_index {doc : Json} (h : structureFindings doc = []) (reference : String) :
    (Roster.ofDocument doc).resolve reference = (Registry.ofDocument doc).index reference := by
  rw [Roster.resolve, ClassNaming.resolve, Roster.ofDocument, classEntries_eq h, Registry.index,
    Registry.ofDocument, List.findIdx?_map, List.findIdx?_map]
  split
  · rename_i he
    rw [eq_comm, List.findIdx?_eq_none_iff]
    intro entry _
    rw [String.isEmpty_iff.1 he, Function.comp_apply, ← Bool.not_eq_true, List.contains_iff_mem]
    exact empty_not_mem_keysOf entry
  · refine findIdx?_congr fun entry hm => ?_
    obtain ⟨⟨name, hn⟩, kl, hk⟩ := class_texts h hm
    rw [Function.comp_apply, Function.comp_apply, isNamed_ofEntry hn hk]

theorem name_eq_classNameAt {doc : Json} (h : structureFindings doc = []) (i : ClassId) :
    (Roster.ofDocument doc).name i = (classNameAt doc i).getD "" := by
  rw [Roster.name, Roster.ofDocument, classEntries_eq h, classNameAt, List.getElem?_map]
  cases (classes doc)[i]? with
  | none => rfl
  | some entry => rfl

theorem AssociationClass.ofEntry_made {names : Roster} {rel : Json} {i j : ClassId}
    (h : LinkClass.ofEntry names rel = .made i j) :
    ∃ a, AssociationClass.ofEntry names rel = some a ∧
      a.name = associationName names ((text rel relIdKeys).getD "") i j := by
  unfold AssociationClass.ofEntry
  split
  · rename_i e
    cases h.symm.trans e
    exact ⟨_, rfl, rfl⟩
  · simp_all

/-- A class that the checks predict for a many-to-many relationship is made. -/
theorem predictedAssociation_made {doc rel : Json} (h : structureFindings doc = []) {key : String}
    (hp : predictedAssociation doc (Registry.ofDocument doc) rel = some key) :
    ∃ a, AssociationClass.ofEntry (Roster.ofDocument doc) rel = some a ∧ a.name ≠ "" ∧
      lower a.name = key := by
  obtain ⟨u, hg, hp⟩ := Option.bind_eq_some_iff.1 hp
  replace hg := of_guard hg
  simp only [Option.bind_eq_bind, Option.bind_eq_some_iff] at hp
  obtain ⟨source, ⟨r, hr, i, hi, hsi⟩, target, ⟨s, hs, j, hj, htj⟩, relId, hrel, hkey⟩ := hp
  simp only [Bool.and_eq_true, Bool.not_eq_true'] at hg
  obtain ⟨⟨⟨hgen, hassoc⟩, hfrom⟩, hto⟩ := hg
  simp only [checkedEnds, hgen, Bool.false_eq_true, if_false] at hr hs
  have hlink : LinkClass.ofEntry (Roster.ofDocument doc) rel = .made i j := by
    have hnone : (Roster.ofDocument doc).field rel associationKeys = none := by
      rw [Roster.field, Option.isNone_iff_eq_none.1 hassoc, Option.bind_none]
    have hi' : (Roster.ofDocument doc).field rel fromKeys = some i := by
      rw [Roster.field, hr, Option.bind_some, resolve_eq_index h, hi]
    have hj' : (Roster.ofDocument doc).field rel toKeys = some j := by
      rw [Roster.field, hs, Option.bind_some, resolve_eq_index h, hj]
    simp [LinkClass.ofEntry, Relationship.ofEntry, Relationship.isManyToMany, hgen, hfrom, hto,
      hnone, hi', hj']
  obtain ⟨a, ha, hname⟩ := AssociationClass.ofEntry_made hlink
  refine ⟨a, ha, by simp [hname, associationName], ?_⟩
  simp only [Option.pure_def, Option.some.injEq] at hkey
  rw [hname, associationName, name_eq_classNameAt h, name_eq_classNameAt h, hsi, htj, hrel, ← hkey]
  rfl

theorem class_mem_model {doc entry : Json} (h : structureFindings doc = [])
    (he : entry ∈ classes doc) :
    ∃ c ∈ (Model.ofDocument doc).classes, c.toClassNaming = ClassNaming.ofEntry entry := by
  rw [← classEntries_eq h] at he
  obtain ⟨i, hi, rfl⟩ := List.mem_iff_getElem.1 he
  obtain ⟨pyNames, hclasses⟩ := Model.classes_ofDocument doc
  rw [hclasses]
  exact ⟨_, List.mem_mapIdx.2 ⟨i, hi, rfl⟩, rfl⟩

theorem association_mem_model {doc rel : Json} {a : AssociationClass}
    (hr : rel ∈ entries doc "relationships")
    (ha : AssociationClass.ofEntry (Roster.ofDocument doc) rel = some a) :
    ∃ b ∈ (Model.ofDocument doc).associations, b.name = a.name := by
  have hm := List.mem_filterMap.2 ⟨rel, hr, ha⟩
  obtain ⟨i, hi, rfl⟩ := List.mem_iff_getElem.1 hm
  exact ⟨_, List.mem_mapIdx.2 ⟨i, hi, rfl⟩, rfl⟩

end Document

namespace Action.SymbolTable

open Document

theorem resolve_isSome_of_key {t : SymbolTable} {e : SymbolEntry} {k r : String}
    (he : e ∈ t.entries) (hk : k ∈ e.keys) (hne : k ≠ "") (hl : lower k = lower (trimmed r)) :
    (t.resolve r).isSome = true := by
  rw [resolve, Option.isSome_map, List.find?_isSome]
  refine ⟨e, he, List.any_eq_true.2 ⟨k, hk, ?_⟩⟩
  simp [hne, hl]

theorem resolve_of_classKey {doc entry : Json} {r : String} (h : structureFindings doc = [])
    (he : entry ∈ classes doc) (hr : lower (trimmed r) ∈ Registry.keysOf entry) :
    ((ofModel (Model.ofDocument doc)).resolve r).isSome = true := by
  obtain ⟨c, hc, hnaming⟩ := class_mem_model h he
  obtain ⟨t, ht, hl⟩ := List.mem_map.1 hr
  obtain ⟨key, hkey, htext⟩ := List.mem_filterMap.1 ht
  have hmem : t ∈ [c.name, c.keyLetters, c.pyName, c.id] := by
    have hid : c.id = (ClassNaming.ofEntry entry).id := congrArg ClassNaming.id hnaming
    have hname : c.name = (ClassNaming.ofEntry entry).name := congrArg ClassNaming.name hnaming
    have hkl : c.keyLetters = (ClassNaming.ofEntry entry).keyLetters :=
      congrArg ClassNaming.keyLetters hnaming
    simp only [List.mem_cons, List.not_mem_nil, or_false] at hkey
    rcases hkey with rfl | rfl | rfl <;> simp [hid, hname, hkl, ClassNaming.ofEntry, htext]
  exact resolve_isSome_of_key
    (List.mem_append_left _ (List.mem_map.2 ⟨c, hc, rfl⟩)) hmem (text_ne_empty htext) hl

theorem resolve_of_predicted {doc rel : Json} {r : String} (h : structureFindings doc = [])
    (hrel : rel ∈ Document.entries doc "relationships")
    (hr : predictedAssociation doc (Registry.ofDocument doc) rel = some (lower (trimmed r))) :
    ((ofModel (Model.ofDocument doc)).resolve r).isSome = true := by
  obtain ⟨a, ha, hne, hl⟩ := predictedAssociation_made h hr
  obtain ⟨b, hb, hname⟩ := association_mem_model hrel ha
  rw [← hname] at hne hl
  exact resolve_isSome_of_key (List.mem_append_right _ (List.mem_map.2 ⟨b, hb, rfl⟩))
    List.mem_cons_self hne hl

/-- Every class that action text may name is in the table of the model. -/
theorem resolve_of_hasClass {doc : Json} {r : String} (h : structureFindings doc = [])
    (hr : (references doc).hasClass r = true) :
    ((ofModel (Model.ofDocument doc)).resolve r).isSome = true := by
  rw [References.hasClass, List.contains_iff_mem, references, List.mem_append] at hr
  rcases hr with hr | hr
  · obtain ⟨keys, hkeys, hmem⟩ := List.mem_flatten.1 hr
    obtain ⟨entry, he, rfl⟩ := List.mem_map.1 hkeys
    exact resolve_of_classKey h he hmem
  · obtain ⟨rel, hrel, hp⟩ := List.mem_filterMap.1 hr
    exact resolve_of_predicted h hrel hp

end Action.SymbolTable

end ExecutableUml
