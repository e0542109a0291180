import ExecutableUml.Document.Model
import ExecutableUml.Proofs.Distinct
import Mathlib.Data.List.Induction

/-! The place of a class among the others. The pairs of supertypes and subtypes are linked one after
another, and a subtype keeps the first supertype that it gets. So the supertype of a class is that
of the first pair with this class as the subtype, and its subtypes are those of the pairs that were
not left out. -/

namespace ExecutableUml

open Document

theorem ClassNaming.resolve_lt {names : List ClassNaming} {reference : String} {id : ClassId}
    (h : resolve names reference = some id) : id < names.length := by
  rw [resolve] at h
  split at h
  · cases h
  · exact (List.findIdx?_eq_some_iff_getElem.1 h).1

namespace Generalization

variable {gs : List Generalization}

def superOf (gs : List Generalization) (c : ClassId) : Option ClassId :=
  (gs.find? fun g => g.subClass == c).map superClass

/-- The subtypes of the pairs that say the supertype which the subtype has. -/
def subsOf (gs : List Generalization) (s : ClassId) : List ClassId :=
  (gs.filter fun g => g.superClass == s && superOf gs g.subClass == some s).map subClass

def PairsDiffer (gs : List Generalization) : Prop :=
  gs.Pairwise fun a b => (a.superClass, a.subClass) ≠ (b.superClass, b.subClass)

theorem mem_of_superOf {s c : ClassId} (h : superOf gs c = some s) :
    ∃ g ∈ gs, g.superClass = s ∧ g.subClass = c := by
  obtain ⟨g, hfound, rfl⟩ := Option.map_eq_some_iff.1 h
  exact ⟨g, List.mem_of_find?_eq_some hfound, rfl, by simpa using List.find?_some hfound⟩

theorem superOf_isSome_of_mem {g : Generalization} (h : g ∈ gs) :
    (superOf gs g.subClass).isSome = true := by
  rw [superOf, Option.isSome_map]
  exact List.find?_isSome.2 ⟨g, h, beq_self_eq_true _⟩

/-- A class is among the subtypes of another one exactly when that one is its supertype. -/
theorem mem_subsOf {s c : ClassId} : c ∈ subsOf gs s ↔ superOf gs c = some s := by
  constructor
  · intro h
    obtain ⟨g, hg, rfl⟩ := List.mem_map.1 h
    exact beq_iff_eq.1 (Bool.and_eq_true_iff.1 (List.mem_filter.1 hg).2).2
  · intro h
    obtain ⟨g, hg, rfl, rfl⟩ := mem_of_superOf h
    exact List.mem_map.2 ⟨g, List.mem_filter.2 ⟨hg, by simp [h]⟩, rfl⟩

/-- Pairs with one supertype differ in the subtype, so no subtype is listed twice. -/
theorem subsOf_nodup (h : PairsDiffer gs) (s : ClassId) : (subsOf gs s).Nodup := by
  rw [subsOf, List.Nodup, List.pairwise_map, List.pairwise_filter]
  apply h.imp
  intro a b hdiffer ha hb hsub
  have hsuper : a.superClass = b.superClass := by
    rw [Bool.and_eq_true, beq_iff_eq] at ha hb
    rw [ha.1, hb.1]
  exact hdiffer (by rw [hsuper, hsub])

/-- A pair gives its subtype a supertype if it has none yet. -/
theorem superOf_concat (g : Generalization) (c : ClassId) :
    superOf (gs ++ [g]) c =
      (superOf gs c).or (if g.subClass = c then some g.superClass else none) := by
  rw [superOf, superOf, List.find?_append, List.find?_singleton, Option.map_or]
  congr 1
  by_cases hc : g.subClass = c
  · simp [hc]
  · simp [hc]

theorem superOf_concat_of_mem {g : Generalization} (g' : Generalization) (h : g ∈ gs) :
    superOf (gs ++ [g']) g.subClass = superOf gs g.subClass := by
  obtain ⟨s, hs⟩ := Option.isSome_iff_exists.1 (superOf_isSome_of_mem h)
  rw [superOf_concat, hs, Option.some_or]

/-- A pair that is new gives its supertype a subtype if that one has no supertype yet. -/
theorem subsOf_concat {g : Generalization} (h : PairsDiffer (gs ++ [g])) (s : ClassId) :
    subsOf (gs ++ [g]) s = subsOf gs s ++
      if g.superClass = s ∧ superOf gs g.subClass = none then [g.subClass] else [] := by
  have hbefore : (gs.filter fun a =>
        a.superClass == s && superOf (gs ++ [g]) a.subClass == some s) =
      gs.filter fun a => a.superClass == s && superOf gs a.subClass == some s := by
    apply List.filter_congr
    intro a ha
    rw [superOf_concat_of_mem g ha]
  rw [subsOf, List.filter_append, List.map_append, hbefore, ← subsOf]
  congr 1
  cases hsuper : superOf gs g.subClass with
  | none =>
    have hnew : superOf (gs ++ [g]) g.subClass = some g.superClass := by
      rw [superOf_concat, hsuper, if_pos rfl, Option.none_or]
    by_cases hs : g.superClass = s
    · simp [hnew, hs]
    · simp [hs]
  | some t =>
    -- The pair with the supertype that the subtype has is another one, which is there already.
    have hother : t ≠ g.superClass := by
      rintro rfl
      obtain ⟨a, ha, hsame, hsub⟩ := mem_of_superOf hsuper
      obtain ⟨-, -, hdiffer⟩ := List.pairwise_append.1 h
      exact hdiffer a ha g List.mem_cons_self (by rw [hsame, hsub])
    have hold : superOf (gs ++ [g]) g.subClass = some t := by
      rw [superOf_concat, hsuper, Option.some_or]
    by_cases hs : g.superClass = s
    · simp [hold, hs, hs ▸ hother]
    · simp [hs]

end Generalization

open Generalization

def Class.placed (gs : List Generalization) (id : ClassId) (c : Class) : Class :=
  { c with superClass := superOf gs id, subClasses := subsOf gs id }

namespace Generalization

variable {gs : List Generalization} {classes : List Class}

/-- A pair whose subtype has a supertype already says nothing about any class. -/
theorem placed_concat_of_some {g : Generalization} (hdiffer : PairsDiffer (gs ++ [g])) {s : ClassId}
    (h : superOf gs g.subClass = some s) (i : ClassId) (c : Class) :
    c.placed (gs ++ [g]) i = c.placed gs i := by
  have hsuper : superOf (gs ++ [g]) i = superOf gs i := by
    rw [superOf_concat]
    by_cases hi : g.subClass = i
    · rw [← hi, h, Option.some_or]
    · rw [if_neg hi, Option.or_none]
  have hsubs : subsOf (gs ++ [g]) i = subsOf gs i := by
    rw [subsOf_concat hdiffer, h, if_neg (by simp), List.append_nil]
  rw [Class.placed, Class.placed, hsuper, hsubs]

theorem placed_concat_of_none {g : Generalization} (hdiffer : PairsDiffer (gs ++ [g]))
    (h : superOf gs g.subClass = none) (i : ClassId) (c : Class) :
    c.placed (gs ++ [g]) i =
      { c with
        superClass := if g.subClass = i then some g.superClass else superOf gs i
        subClasses := if g.superClass = i then subsOf gs i ++ [g.subClass] else subsOf gs i } := by
  have hsuper : superOf (gs ++ [g]) i =
      if g.subClass = i then some g.superClass else superOf gs i := by
    rw [superOf_concat]
    by_cases hi : g.subClass = i
    · rw [if_pos hi, if_pos hi, ← hi, h, Option.none_or]
    · rw [if_neg hi, if_neg hi, Option.or_none]
  have hsubs : subsOf (gs ++ [g]) i =
      if g.superClass = i then subsOf gs i ++ [g.subClass] else subsOf gs i := by
    rw [subsOf_concat hdiffer, h]
    by_cases hi : g.superClass = i
    · simp [hi]
    · simp [hi]
  rw [Class.placed, hsuper, hsubs]

/-- One round of the wiring: what the pairs so far say about the classes becomes what one more pair
says about them. -/
theorem link_placed {g : Generalization} (hdiffer : PairsDiffer (gs ++ [g]))
    (hsub : g.subClass < classes.length) :
    link (classes.mapIdx (Class.placed gs)) g = classes.mapIdx (Class.placed (gs ++ [g])) := by
  have hstored : ((classes.mapIdx (Class.placed gs))[g.subClass]?).bind Class.superClass =
      superOf gs g.subClass := by
    rw [List.getElem?_mapIdx, List.getElem?_eq_getElem hsub]
    rfl
  rw [link, hstored]
  cases hsuper : superOf gs g.subClass with
  | some s =>
    rw [if_pos Option.isSome_some, List.mapIdx_eq_mapIdx_iff]
    intro i hi
    rw [placed_concat_of_some hdiffer hsuper]
  | none =>
    have hnew : ∀ s, g.subClass ∉ subsOf gs s := by
      intro s hmem
      rw [mem_subsOf, hsuper] at hmem
      cases hmem
    rw [if_neg (by simp)]
    apply List.ext_getElem?
    intro i
    rw [List.getElem?_modify, List.getElem?_modify, List.getElem?_mapIdx, List.getElem?_mapIdx]
    cases classes[i]? with
    | none => rfl
    | some c =>
      simp only [Option.map_some, Option.map_eq_map, placed_concat_of_none hdiffer hsuper]
      by_cases hi : g.subClass = i
      · by_cases hi' : g.superClass = i
        · simp [Class.placed, hi, hi', hi ▸ hnew i]
        · simp [Class.placed, hi, hi']
      · by_cases hi' : g.superClass = i
        · simp [Class.placed, hi, hi', hnew i]
        · simp [Class.placed, hi, hi']

/-- Linking all pairs leaves every class with what the pairs say about it. -/
theorem wire_eq (hbare : ∀ c ∈ classes, c.superClass = none ∧ c.subClasses = [])
    (hdiffer : PairsDiffer gs) (hsub : ∀ g ∈ gs, g.subClass < classes.length) :
    wire gs classes = classes.mapIdx (Class.placed gs) := by
  induction gs using List.reverseRecOn with
  | nil =>
    apply List.ext_getElem?
    intro i
    rw [List.getElem?_mapIdx, wire, List.foldl_nil]
    cases hc : classes[i]? with
    | none => rfl
    | some c =>
      obtain ⟨hsuper, hsubs⟩ := hbare c (List.mem_of_getElem? hc)
      have hnone : superOf [] i = c.superClass := hsuper.symm
      have hempty : subsOf [] i = c.subClasses := hsubs.symm
      rw [Option.map_some, Class.placed, hnone, hempty]
  | append_singleton gs g ih =>
    have hconcat : wire (gs ++ [g]) classes = link (wire gs classes) g := List.foldl_append
    rw [hconcat,
      ih (List.pairwise_append.1 hdiffer).1 fun a ha => hsub a (List.mem_append_left _ ha)]
    exact link_placed hdiffer (hsub g (List.mem_append_right _ List.mem_cons_self))

/-- A generalization is made of two classes that its entry names. -/
theorem make_eq_some {names : Roster} {ends : Option String × Option String}
    {relId : Option String} {declaredBy : GeneralizationSource} {g : Generalization}
    (h : make names ends relId declaredBy = some g) :
    g.superClass < names.length ∧ g.subClass < names.length ∧ g.superClass ≠ g.subClass := by
  simp only [make, Option.bind_eq_bind, Option.bind_eq_some_iff] at h
  obtain ⟨_, -, superClass, hsuper, _, -, subClass, hsub, hmade⟩ := h
  split at hmade
  · cases hmade
  · rename_i hne
    cases hmade
    exact ⟨ClassNaming.resolve_lt hsuper, ClassNaming.resolve_lt hsub, hne⟩

theorem make_of_mem {names : Roster} {doc : Json} {g : Generalization}
    (h : g ∈ ofDocument names doc) :
    ∃ ends relId declaredBy, make names ends relId declaredBy = some g := by
  rcases List.mem_append.1 (mem_of_mem_distinctFrom h) with h | h
  · obtain ⟨entry, -, hmade⟩ := List.mem_filterMap.1 h
    exact ⟨_, _, _, hmade⟩
  · obtain ⟨rel, -, hmade⟩ := List.mem_filterMap.1 h
    rw [ofRelationship] at hmade
    split at hmade
    · exact ⟨_, _, _, hmade⟩
    · cases hmade

theorem pairsDiffer_ofDocument (names : Roster) (doc : Json) :
    PairsDiffer (ofDocument names doc) := by
  apply (distinct_pairwise _).imp
  intro a b hdiffer hpair
  obtain ⟨hsuper, hsub⟩ := Prod.mk.inj hpair
  rw [samePair, hsuper, hsub] at hdiffer
  simp at hdiffer

/-- The pairs of a document are wired into its classes in full. -/
theorem wire_ofDocument (doc : Json) (names : Roster) (events : List Event)
    (pyNames : List String) :
    wire (ofDocument (Roster.ofDocument doc) doc)
        ((classEntries doc).mapIdx (Class.ofEntry names events pyNames)) =
      (classEntries doc).mapIdx fun id entry =>
        (Class.ofEntry names events pyNames id entry).placed
          (ofDocument (Roster.ofDocument doc) doc) id := by
  rw [wire_eq ?_ (pairsDiffer_ofDocument _ doc) ?_]
  · apply List.ext_getElem?
    intro i
    rw [List.getElem?_mapIdx, List.getElem?_mapIdx, List.getElem?_mapIdx, Option.map_map]
    rfl
  · intro c hc
    obtain ⟨i, hi, rfl⟩ := List.mem_mapIdx.1 hc
    exact ⟨rfl, rfl⟩
  · intro g hg
    obtain ⟨ends, relId, declaredBy, hmade⟩ := make_of_mem hg
    have hlt := (make_eq_some hmade).2.1
    rw [Roster.ofDocument, List.length_map] at hlt
    rwa [List.length_mapIdx]

end Generalization

/-- The classes of a model, entry by entry. -/
theorem Model.classes_ofDocument (doc : Json) : ∃ pyNames, (Model.ofDocument doc).classes =
    (Document.classEntries doc).mapIdx fun id entry =>
      (Class.ofEntry (Roster.ofDocument doc) (Model.ofDocument doc).events pyNames id entry).placed
        (Model.ofDocument doc).generalizations id :=
  ⟨_, wire_ofDocument doc _ _ _⟩

theorem Model.exists_entry_of_mem {doc : Json} {c : Class}
    (h : c ∈ (Model.ofDocument doc).classes) :
    ∃ (i : Nat) (hi : i < (Document.classEntries doc).length) (pyNames : List String),
      c = (Class.ofEntry (Roster.ofDocument doc) (Model.ofDocument doc).events pyNames i
        (Document.classEntries doc)[i]).placed (Model.ofDocument doc).generalizations i := by
  obtain ⟨pyNames, hclasses⟩ := classes_ofDocument doc
  rw [hclasses] at h
  obtain ⟨i, hi, rfl⟩ := List.mem_mapIdx.1 h
  exact ⟨i, hi, pyNames, rfl⟩

end ExecutableUml
