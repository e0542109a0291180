import ExecutableUml.Execution.Store
import ExecutableUml.Proofs.Json.Fields
import Mathlib.Algebra.BigOperators.Group.Finset.Basic
import Mathlib.Data.List.Nodup

/-! The store keeps the live identities twice: with the class of each, and class by class. The two
tell the same, whatever is registered, added, removed and cleared. -/

namespace ExecutableUml.Execution.Store

theorem lookup_filter_ne (l : List (InstanceId × String)) (id a : InstanceId) :
    (l.filter (·.1 ≠ id)).lookup a = if a = id then none else l.lookup a := by
  induction l with
  | nil => simp
  | cons o l ih =>
    obtain ⟨k, className⟩ := o
    by_cases hk : k = id
    · simp only [hk, ne_eq, not_true_eq_false, decide_false, Bool.false_eq_true, not_false_eq_true,
        List.filter_cons_of_neg, lookup_cons_eq]
      rw [ih]
      split <;> rfl
    · simp only [ne_eq, hk, not_false_eq_true, decide_true, List.filter_cons_of_pos, lookup_cons_eq]
      rw [ih]
      by_cases ha : a = k <;> simp [ha, hk]

section Owners

variable (s : Store)

theorem owner?_add (className : String) (id : InstanceId) :
    (s.add className).2.owner? id =
      (s.owner? id).or (if id = s.nextId then some className else none) := by
  rw [owner?, owner?, add, List.lookup_append, lookup_cons_eq, List.lookup_nil]

theorem owner?_remove (id a : InstanceId) :
    (s.remove id).owner? a = if a = id then none else s.owner? a := by
  rw [remove]
  split
  · rename_i hnone
    split
    · rename_i ha
      rw [ha, hnone]
    · rfl
  · exact lookup_filter_ne s.owners id a

theorem contains_iff {id : InstanceId} :
    s.contains id = true ↔ ∃ className, s.owner? id = some className :=
  Option.isSome_iff_exists

theorem mem_owners {id : InstanceId} {className : String} (h : s.owner? id = some className) :
    id ∈ s.owners.map Prod.fst :=
  List.mem_map.2 ⟨_, mem_of_lookup h, rfl⟩

theorem owner?_of_mem {id : InstanceId} (h : id ∈ s.owners.map Prod.fst) :
    ∃ className, s.owner? id = some className := by
  obtain ⟨o, ho, rfl⟩ := List.mem_map.1 h
  exact Option.isSome_iff_exists.1 (List.lookup_isSome_iff.2 ⟨o, ho, by simp⟩)

theorem nextId_remove (id : InstanceId) : (s.remove id).nextId = s.nextId := by
  rw [remove]
  split <;> rfl

theorem contains_add {className : String} {id : InstanceId} (h : s.contains id = true) :
    (s.add className).2.contains id = true := by
  obtain ⟨c, hc⟩ := s.contains_iff.1 h
  rw [contains, owner?_add, hc, Option.some_or, Option.isSome_some]

theorem contains_remove {id a : InstanceId} (h : s.contains a = true) (hne : a ≠ id) :
    (s.remove id).contains a = true := by
  rwa [contains, owner?_remove, if_neg hne]

end Owners

theorem extent_changeExtent (change : List InstanceId → List InstanceId) (c className : String)
    (extents : List (String × List InstanceId)) :
    ((changeExtent change c extents).lookup className).getD [] =
      if className = c then change ((extents.lookup className).getD [])
      else (extents.lookup className).getD [] := by
  fun_induction changeExtent change c extents with
  | case1 =>
    rw [lookup_cons_eq, List.lookup_nil]
    split <;> rfl
  | case2 ids rest =>
    rw [lookup_cons_eq, lookup_cons_eq]
    split <;> rfl
  | case3 name ids rest hname ih =>
    rw [lookup_cons_eq, lookup_cons_eq]
    by_cases h : className = name
    · rw [if_pos h, if_pos h, if_neg (h ▸ hname)]
    · rw [if_neg h, if_neg h, ih]

section Extents

variable (s : Store)

@[simp] theorem extent_register (c className : String) :
    (s.register c).extent className = s.extent className := by
  rw [extent, extent, register, extent_changeExtent]
  split <;> rfl

theorem extent_add (c className : String) :
    (s.add c).2.extent className =
      if className = c then s.extent className ++ [s.nextId] else s.extent className :=
  extent_changeExtent _ _ _ _

theorem extent_clear (className : String) : s.clear.extent className = [] := by
  rw [extent, clear]
  cases h : (s.extents.map fun extent => (extent.1, ([] : List InstanceId))).lookup className with
  | none => rfl
  | some ids =>
    obtain ⟨e, -, he⟩ := List.mem_map.1 (mem_of_lookup h)
    exact (congrArg Prod.snd he).symm

end Extents

def classNames (s : Store) : Finset String := (s.extents.map Prod.fst).toFinset

theorem mem_classNames {s : Store} {className : String} {id : InstanceId}
    (h : id ∈ s.extent className) : className ∈ s.classNames := by
  rw [classNames, List.mem_toFinset, List.mem_map]
  cases hl : s.extents.lookup className with
  | none =>
    rw [extent, hl] at h
    cases h
  | some ids => exact ⟨_, mem_of_lookup hl, rfl⟩

/-- The two ways to find the live identities agree, and the next identity is above all of them. -/
structure Consistent (s : Store) : Prop where
  owner_iff : ∀ id className, s.owner? id = some className ↔ id ∈ s.extent className
  increasing : ∀ className, (s.extent className).Pairwise (· < ·)
  nodup : (s.owners.map Prod.fst).Nodup
  below : ∀ id ∈ s.owners.map Prod.fst, id < s.nextId

namespace Consistent

theorem new : Consistent {} where
  owner_iff id className := by simp [owner?, extent]
  increasing className := by simp [extent]
  nodup := by simp
  below := by simp

theorem clear (s : Store) : s.clear.Consistent where
  owner_iff id className := by
    rw [extent_clear]
    simp [owner?, Store.clear]
  increasing className := by
    rw [extent_clear]
    exact List.Pairwise.nil
  nodup := List.nodup_nil
  below id hid := absurd hid List.not_mem_nil

variable {s : Store} (h : s.Consistent)
include h

theorem lt_nextId {id : InstanceId} {className : String} (ho : s.owner? id = some className) :
    id < s.nextId :=
  h.below id (s.mem_owners ho)

theorem owner?_nextId : s.owner? s.nextId = none := by
  cases ho : s.owner? s.nextId with
  | none => rfl
  | some className => exact absurd (h.lt_nextId ho) (lt_irrefl _)

theorem register (className : String) : (s.register className).Consistent where
  owner_iff id c := by
    rw [extent_register]
    exact h.owner_iff id c
  increasing c := by
    rw [extent_register]
    exact h.increasing c
  nodup := h.nodup
  below := h.below

theorem add (className : String) : (s.add className).2.Consistent where
  owner_iff id c := by
    rw [owner?_add, extent_add]
    by_cases hid : id = s.nextId
    · subst hid
      have hnot : s.nextId ∉ s.extent c := by
        rw [← h.owner_iff, h.owner?_nextId]
        simp
      rw [h.owner?_nextId, Option.none_or, if_pos rfl, Option.some.injEq]
      split
      · rename_i hc
        simp [hc]
      · rename_i hc
        simp [hnot, Ne.symm hc]
    · rw [if_neg hid, Option.or_none, h.owner_iff]
      by_cases hc : c = className <;> simp [hc, hid]
  increasing c := by
    rw [extent_add]
    split
    · refine List.pairwise_append.2 ⟨h.increasing c, List.pairwise_singleton _ _, ?_⟩
      intro a ha b hb
      rw [List.mem_singleton.1 hb]
      exact h.lt_nextId ((h.owner_iff a c).2 ha)
    · exact h.increasing c
  nodup := by
    have hnew : s.nextId ∉ s.owners.map Prod.fst := fun hin => lt_irrefl _ (h.below _ hin)
    rw [Store.add, List.map_append]
    exact List.nodup_append_comm.2 (List.nodup_cons.2 ⟨hnew, h.nodup⟩)
  below id hid := by
    rw [Store.add, List.map_append] at hid
    rcases List.mem_append.1 hid with hid | hid
    · exact Nat.lt_succ_of_lt (h.below id hid)
    · rw [List.mem_singleton.1 hid]
      exact Nat.lt_succ_self _

/-- Only the class of an identity has it in its extent, so it leaves all of them. -/
theorem extent_remove (id : InstanceId) (className : String) :
    (s.remove id).extent className = (s.extent className).filter (· ≠ id) := by
  have hothers : s.owner? id ≠ some className →
      s.extent className = (s.extent className).filter (· ≠ id) := by
    intro hne
    refine (List.filter_eq_self.2 fun a ha => ?_).symm
    rw [decide_eq_true_iff]
    rintro rfl
    exact hne ((h.owner_iff a className).2 ha)
  rw [remove]
  split
  · rename_i hnone
    exact hothers (by simp [hnone])
  · rename_i c hc
    refine (extent_changeExtent _ c className s.extents).trans ?_
    split
    · rfl
    · rename_i hne
      exact hothers (by simpa [hc, eq_comm] using hne)

theorem remove (id : InstanceId) : (s.remove id).Consistent := by
  have howners : (s.remove id).owners.Sublist s.owners := by
    rw [Store.remove]
    split
    · exact List.Sublist.refl _
    · exact List.filter_sublist
  constructor
  · intro a c
    rw [owner?_remove, h.extent_remove, List.mem_filter, ← h.owner_iff]
    by_cases ha : a = id <;> simp [ha]
  · intro c
    rw [h.extent_remove]
    exact (h.increasing c).filter _
  · exact h.nodup.sublist (howners.map _)
  · intro a ha
    rw [nextId_remove]
    exact h.below a ((howners.map _).subset ha)

/-- Every live identity is counted in one class. -/
theorem size_eq_sum_count : s.size = ∑ className ∈ s.classNames, s.count className := by
  have hmaps : ∀ id ∈ (s.owners.map Prod.fst).toFinset,
      (s.owner? id).getD "" ∈ s.classNames := by
    intro id hid
    obtain ⟨className, hc⟩ := s.owner?_of_mem (List.mem_toFinset.1 hid)
    rw [hc]
    exact mem_classNames ((h.owner_iff id className).1 hc)
  have hfiber : ∀ className, ((s.owners.map Prod.fst).toFinset.filter
      fun id => (s.owner? id).getD "" = className) = (s.extent className).toFinset := by
    intro className
    ext id
    rw [Finset.mem_filter, List.mem_toFinset, List.mem_toFinset, ← h.owner_iff]
    constructor
    · rintro ⟨hid, hc⟩
      obtain ⟨c, ho⟩ := s.owner?_of_mem hid
      rw [ho] at hc ⊢
      exact congrArg some hc
    · intro ho
      exact ⟨s.mem_owners ho, by rw [ho]; rfl⟩
  calc s.size = (s.owners.map Prod.fst).toFinset.card := by
        rw [List.toFinset_card_of_nodup h.nodup, List.length_map, size]
    _ = ∑ className ∈ s.classNames, ((s.owners.map Prod.fst).toFinset.filter
          fun id => (s.owner? id).getD "" = className).card :=
        Finset.card_eq_sum_card_fiberwise hmaps
    _ = ∑ className ∈ s.classNames, s.count className := by
        refine Finset.sum_congr rfl fun className _ => ?_
        rw [hfiber, List.toFinset_card_of_nodup (h.increasing className).nodup, count]

end Consistent

end ExecutableUml.Execution.Store
