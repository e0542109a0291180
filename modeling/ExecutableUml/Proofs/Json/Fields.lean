import ExecutableUml.Json.Value
import ExecutableUml.Proofs.Ordered
import ExecutableUml.Proofs.Text.Sorted

/-! Fields in the order of their keys. No key of a sorted list of fields has two values: the keys
are the ones that are given, and the last value that is given for a key is the one found there. -/

namespace ExecutableUml

namespace Json

variable {α : Type}

theorem insertField_eq (key : String) (value : α) (fields : List (String × α)) :
    insertField key value fields = insertKeyed key value fields := by
  induction fields with
  | nil => rfl
  | cons field rest ih => rw [insertField, insertKeyed, ih]

theorem lookup_insertField (key k : String) (value : α) (fields : List (String × α)) :
    (insertField key value fields).lookup k = if k = key then some value else fields.lookup k := by
  rw [insertField_eq, lookup_insertKeyed]

theorem mem_of_mem_insertField {key : String} {value : α} {fields : List (String × α)}
    {f : String × α} (h : f ∈ insertField key value fields) : f = (key, value) ∨ f ∈ fields := by
  rw [insertField_eq] at h
  exact mem_of_mem_insertKeyed h

def Increasing (fields : List (String × α)) : Prop := fields.Pairwise fun f g => f.1 < g.1

theorem Increasing.insertField {key : String} {value : α} {fields : List (String × α)}
    (h : Increasing fields) : Increasing (insertField key value fields) := by
  rw [insertField_eq]
  exact insertKeyed_ordered h

theorem Increasing.eq_of_key_eq {fields : List (String × α)} (h : Increasing fields)
    {f g : String × α} (hf : f ∈ fields) (hg : g ∈ fields) (hkey : f.1 = g.1) : f = g := by
  induction fields with
  | nil => cases hf
  | cons first fields ih =>
    obtain ⟨hfirst, hrest⟩ := List.pairwise_cons.1 h
    rcases List.mem_cons.1 hf with rfl | hf'
    · rcases List.mem_cons.1 hg with rfl | hg'
      · rfl
      · exact absurd (hkey ▸ hfirst g hg') (String.lt_irrefl _)
    · rcases List.mem_cons.1 hg with rfl | hg'
      · exact absurd (hkey ▸ hfirst f hf') (String.lt_irrefl _)
      · exact ih hrest hf' hg'

theorem sortFields_increasing (fields : List (String × α)) : Increasing (sortFields fields) :=
  List.foldlRecOn fields _ List.Pairwise.nil fun _ h _ _ => Increasing.insertField h

theorem mem_of_mem_sortFields {fields : List (String × α)} {f : String × α}
    (h : f ∈ sortFields fields) : f ∈ fields := by
  refine List.foldlRecOn (motive := fun sorted => f ∈ sorted → f ∈ fields) fields _ (by simp) ?_ h
  intro sorted ih g hg hf
  rcases mem_of_mem_insertField hf with rfl | hf
  · exact hg
  · exact ih hf

theorem keys_insertField (key : String) (value : α) (fields : List (String × α)) :
    (insertField key value fields).map Prod.fst =
      Text.insertSorted key (fields.map Prod.fst) := by
  induction fields with
  | nil => rfl
  | cons field rest ih =>
    rw [insertField, List.map_cons, Text.insertSorted]
    by_cases hkey : key = field.1
    · rw [if_pos hkey, hkey, if_neg (String.lt_irrefl _), if_pos rfl]
      rfl
    · rw [if_neg hkey, if_neg hkey]
      split
      · rfl
      · rw [List.map_cons, ih]

theorem keys_sortFields (fields : List (String × α)) :
    (sortFields fields).map Prod.fst = Text.sortedSet (fields.map Prod.fst) := by
  have hfold : ∀ sorted : List (String × α),
      (fields.foldl (fun s f => Json.insertField f.1 f.2 s) sorted).map Prod.fst =
        (fields.map Prod.fst).foldl (fun s key => Text.insertSorted key s)
          (sorted.map Prod.fst) := by
    induction fields with
    | nil => exact fun _ => rfl
    | cons f fields ih =>
      intro sorted
      rw [List.foldl_cons, ih, keys_insertField]
      rfl
  exact hfold []

/-- Every key that is given is a key of the sorted fields. -/
theorem exists_mem_sortFields {fields : List (String × α)} {f : String × α} (h : f ∈ fields) :
    ∃ g ∈ sortFields fields, g.1 = f.1 := by
  have hkey : f.1 ∈ (sortFields fields).map Prod.fst := by
    rw [keys_sortFields, Text.mem_sortedSet]
    exact List.mem_map_of_mem h
  exact List.mem_map.1 hkey

theorem lookup_sortFields (key : String) (fields : List (String × α)) :
    (sortFields fields).lookup key = fields.reverse.lookup key := by
  have hfold : ∀ sorted : List (String × α),
      (fields.foldl (fun s f => Json.insertField f.1 f.2 s) sorted).lookup key =
        (fields.reverse.lookup key).or (sorted.lookup key) := by
    induction fields with
    | nil => exact fun _ => rfl
    | cons f fields ih =>
      intro sorted
      rw [List.foldl_cons, ih, lookup_insertField, List.reverse_cons, List.lookup_append,
        Option.or_assoc, lookup_cons_eq key f.1 f.2]
      congr 1
      split <;> rfl
  rw [sortFields, hfold, List.lookup_nil, Option.or_none]

end Json

end ExecutableUml
