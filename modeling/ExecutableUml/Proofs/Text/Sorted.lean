import ExecutableUml.Proofs.Ordered
import ExecutableUml.Text.Sorted
import Mathlib.Data.String.Basic

/-! A sorted set of texts has the texts of the list that it is made from, in increasing order. So
the first text in it that meets a condition is the least one that does. -/

namespace ExecutableUml.Text

theorem mem_insertSorted {s x : String} {l : List String} :
    x ∈ insertSorted s l ↔ x = s ∨ x ∈ l := by
  induction l with
  | nil => simp [insertSorted]
  | cons t ts ih =>
    rw [insertSorted]
    split
    · exact List.mem_cons
    · split
      · rename_i hst
        subst hst
        simp
      · rw [List.mem_cons, ih, List.mem_cons]
        exact or_left_comm

theorem insertSorted_increasing {s : String} {l : List String} (h : l.Pairwise (· < ·)) :
    (insertSorted s l).Pairwise (· < ·) := by
  induction l with
  | nil => simp [insertSorted]
  | cons t ts ih =>
    obtain ⟨hfirst, hrest⟩ := List.pairwise_cons.1 h
    rw [insertSorted]
    split
    · rename_i hst
      refine List.pairwise_cons.2 ⟨fun x hx => ?_, h⟩
      rcases List.mem_cons.1 hx with rfl | hx
      · exact hst
      · exact hst.trans (hfirst x hx)
    · rename_i hst
      split
      · exact h
      · rename_i hne
        refine List.pairwise_cons.2 ⟨fun x hx => ?_, ih hrest⟩
        rcases mem_insertSorted.1 hx with rfl | hx
        · exact lt_of_le_of_ne (not_lt.1 hst) (Ne.symm hne)
        · exact hfirst x hx

theorem mem_sortedSet {x : String} {l : List String} : x ∈ sortedSet l ↔ x ∈ l := by
  have hfold : ∀ acc, x ∈ l.foldl (fun acc s => insertSorted s acc) acc ↔ x ∈ acc ∨ x ∈ l := by
    induction l with
    | nil => simp
    | cons s l ih =>
      intro acc
      rw [List.foldl_cons, ih, mem_insertSorted, List.mem_cons, or_comm (a := x = s), or_assoc]
  simpa [sortedSet] using hfold []

theorem sortedSet_increasing (l : List String) : (sortedSet l).Pairwise (· < ·) :=
  List.foldlRecOn l _ List.Pairwise.nil fun _ h _ _ => insertSorted_increasing h

/-- What is found first in a list in increasing order is found at the least place. -/
theorem findSome?_eq_some_iff_least {α : Type} {f : String → Option α} {l : List String}
    (h : l.Pairwise (· < ·)) {a : α} :
    l.findSome? f = some a ↔ ∃ s ∈ l, f s = some a ∧ ∀ t ∈ l, t < s → f t = none := by
  rw [List.findSome?_eq_some_iff, ← exists_split_iff h]
  simp only [and_comm (a := f _ = some a)]

end ExecutableUml.Text
