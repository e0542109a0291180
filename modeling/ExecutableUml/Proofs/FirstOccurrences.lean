import ExecutableUml.Proofs.Distinct
import Mathlib.Data.List.Induction

/-! First occurrences. Where only equal items are the same, `distinct` keeps the first occurrence of
each. In a list that is put together from parts, these do not change if repetitions are dropped
inside the parts, or if a part is left out that came before. -/

namespace ExecutableUml

variable {α β : Type} [BEq α] [LawfulBEq α]

theorem distinctFrom_eq_eraseDups (seen l : List α) :
    distinctFrom (· == ·) seen l = (l.removeAll seen).eraseDups := by
  induction l generalizing seen with
  | nil => rfl
  | cons a l ih =>
    have hseen : (seen.any fun b => b == a) = seen.contains a := by
      rw [List.contains_eq_any_beq]
      simp only [BEq.comm]
    rw [distinctFrom, hseen, List.cons_removeAll]
    cases seen.contains a with
    | true => exact ih seen
    | false =>
      have hrest : l.removeAll (a :: seen) = (l.removeAll seen).filter fun b => !b == a := by
        rw [List.removeAll_cons, List.removeAll, List.removeAll, List.filter_filter,
          List.filter_filter]
        simp only [Bool.and_comm]
      rw [if_neg Bool.false_ne_true, if_pos rfl, ih, hrest, List.eraseDups_cons]

theorem distinct_eq_eraseDups (l : List α) : distinct (· == ·) l = l.eraseDups := by
  rw [distinct, distinctFrom_eq_eraseDups, List.removeAll_nil]

theorem nodup_eraseDups (l : List α) : l.eraseDups.Nodup := by
  rw [← distinct_eq_eraseDups]
  exact (distinct_pairwise l).imp fun h => ne_of_beq_false h

theorem eraseDups_of_nodup {l : List α} (h : l.Nodup) : l.eraseDups = l := by
  induction l with
  | nil => rfl
  | cons a l ih =>
    obtain ⟨ha, hl⟩ := List.nodup_cons.1 h
    have hothers : (l.filter fun b => !b == a) = l := List.filter_eq_self.2 fun b hb => by
      simpa using fun hba : b = a => ha (hba ▸ hb)
    rw [List.eraseDups_cons, hothers, ih hl]

theorem removeAll_congr {l m : List α} (h : ∀ a, a ∈ l ↔ a ∈ m) (n : List α) :
    n.removeAll l = n.removeAll m := by
  unfold List.removeAll
  refine List.filter_congr fun a _ => ?_
  rw [Bool.eq_iff_iff]
  simp [h a]

theorem eraseDups_append_of_subset {l m : List α} (h : m ⊆ l) :
    (l ++ m).eraseDups = l.eraseDups := by
  have hnone : m.removeAll l = [] := List.filter_eq_nil_iff.2 fun a ha => by simp [h ha]
  rw [List.eraseDups_append, hnone, List.eraseDups_nil, List.append_nil]

theorem eraseDups_append_congr {l m : List α} (h : l.eraseDups = m.eraseDups) (n : List α) :
    (l ++ n).eraseDups = (m ++ n).eraseDups := by
  have hmem : ∀ a, a ∈ l ↔ a ∈ m := fun a => by
    rw [← List.mem_eraseDups, h, List.mem_eraseDups]
  rw [List.eraseDups_append, List.eraseDups_append, h, removeAll_congr hmem]

theorem eraseDups_concat_of_not_mem {l : List α} {a : α} (h : a ∉ l) :
    (l ++ [a]).eraseDups = l.eraseDups ++ [a] := by
  have hnew : [a].removeAll l = [a] := List.filter_eq_self.2 fun b hb => by
    rw [List.mem_singleton.1 hb]
    simp [h]
  rw [List.eraseDups_append, hnew]
  rfl

/-- Repetitions inside the last part are repetitions in the whole. -/
theorem eraseDups_append_eraseDups (l m : List α) :
    (l ++ m.eraseDups).eraseDups = (l ++ m).eraseDups := by
  induction m using List.reverseRecOn with
  | nil => rfl
  | append_singleton m a ih =>
    rw [← List.append_assoc]
    by_cases ha : a ∈ m
    · have hagain : (m ++ [a]).eraseDups = m.eraseDups :=
        eraseDups_append_of_subset (by simpa using ha)
      rw [hagain]
      exact ih.trans (eraseDups_append_of_subset (by simp [ha])).symm
    · rw [eraseDups_concat_of_not_mem ha, ← List.append_assoc]
      exact eraseDups_append_congr ih [a]

/-- An item that comes again brings nothing new. -/
theorem eraseDups_flatMap_eraseDups [BEq β] [LawfulBEq β] (f : β → List α) (l : List β) :
    (l.eraseDups.flatMap f).eraseDups = (l.flatMap f).eraseDups := by
  induction l using List.reverseRecOn with
  | nil => rfl
  | append_singleton l b ih =>
    rw [List.flatMap_append, List.flatMap_singleton]
    by_cases hb : b ∈ l
    · have hagain : (l ++ [b]).eraseDups = l.eraseDups :=
        eraseDups_append_of_subset (by simpa using hb)
      have hknown : f b ⊆ l.flatMap f := fun a ha => List.mem_flatMap.2 ⟨b, hb, ha⟩
      rw [hagain, ih, eraseDups_append_of_subset hknown]
    · rw [eraseDups_concat_of_not_mem hb, List.flatMap_append, List.flatMap_singleton]
      exact eraseDups_append_congr ih (f b)

theorem eraseDups_flatMap_parts (f : β → List α) (l : List β) :
    (l.flatMap fun b => (f b).eraseDups).eraseDups = (l.flatMap f).eraseDups := by
  induction l using List.reverseRecOn with
  | nil => rfl
  | append_singleton l b ih =>
    rw [List.flatMap_append, List.flatMap_append, List.flatMap_singleton, List.flatMap_singleton,
      eraseDups_append_eraseDups]
    exact eraseDups_append_congr ih (f b)

end ExecutableUml
