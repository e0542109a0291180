import Mathlib.Data.List.Pairwise

/-! Lists in the order of their keys. Putting a value into such a list changes what is found at its
key and nothing else, and keeps the order. What stands before an item of an ordered list is what is
less than it. -/

namespace ExecutableUml

section Lookup

variable {κ α : Type} [BEq κ] [LawfulBEq κ]

theorem mem_of_lookup {l : List (κ × α)} {a : κ} {b : α} (h : l.lookup a = some b) :
    (a, b) ∈ l := by
  obtain ⟨before, after, rfl, -⟩ := List.lookup_eq_some_iff.1 h
  simp

theorem lookup_cons_eq [DecidableEq κ] (a k : κ) (b : α) (l : List (κ × α)) :
    ((k, b) :: l).lookup a = if a = k then some b else l.lookup a := by
  by_cases h : a = k
  · simp [h]
  · have hbeq : (a == k) = false := beq_false_of_ne h
    simp only [List.lookup_cons, hbeq, if_neg h]

end Lookup

section Insertion

variable {κ α : Type} [DecidableEq κ] [LT κ] [DecidableLT κ]

/-- Puts a value into a list in the order of keys; a later value for the same key wins. -/
def insertKeyed (key : κ) (value : α) : List (κ × α) → List (κ × α)
  | [] => [(key, value)]
  | first :: rest =>
    if key = first.1 then (key, value) :: rest
    else if key < first.1 then (key, value) :: first :: rest
    else first :: insertKeyed key value rest

theorem lookup_insertKeyed [BEq κ] [LawfulBEq κ] (key k : κ) (value : α) (l : List (κ × α)) :
    (insertKeyed key value l).lookup k = if k = key then some value else l.lookup k := by
  induction l with
  | nil => exact lookup_cons_eq k key value []
  | cons first rest ih =>
    have hfirst := lookup_cons_eq k first.1 first.2 rest
    rw [insertKeyed]
    split
    · rename_i hkey
      rw [lookup_cons_eq, hfirst, ← hkey]
      split <;> rfl
    · rename_i hkey
      split
      · exact lookup_cons_eq k key value (first :: rest)
      · rw [lookup_cons_eq k first.1 first.2, ih, hfirst]
        by_cases hk : k = key
        · rw [if_pos hk, if_pos hk, if_neg (hk ▸ hkey)]
        · rw [if_neg hk, if_neg hk]

theorem mem_of_mem_insertKeyed {key : κ} {value : α} {l : List (κ × α)} {f : κ × α}
    (h : f ∈ insertKeyed key value l) : f = (key, value) ∨ f ∈ l := by
  induction l with
  | nil => exact .inl (List.mem_singleton.1 h)
  | cons first rest ih =>
    rw [insertKeyed] at h
    split at h
    · exact (List.mem_cons.1 h).imp_right (List.mem_cons_of_mem first)
    · split at h
      · exact List.mem_cons.1 h
      · rcases List.mem_cons.1 h with rfl | h
        · exact .inr List.mem_cons_self
        · exact (ih h).imp_right (List.mem_cons_of_mem first)

theorem insertKeyed_ordered [Trans (α := κ) (· < ·) (· < ·) (· < ·)]
    [Std.Trichotomous (α := κ) (· < ·)] {key : κ} {value : α} {l : List (κ × α)}
    (h : l.Pairwise fun f g => f.1 < g.1) :
    (insertKeyed key value l).Pairwise fun f g => f.1 < g.1 := by
  induction l with
  | nil => exact List.pairwise_singleton _ _
  | cons first rest ih =>
    obtain ⟨hfirst, hrest⟩ := List.pairwise_cons.1 h
    rw [insertKeyed]
    split
    · rename_i hkey
      exact List.pairwise_cons.2 ⟨fun f hf => hkey ▸ hfirst f hf, hrest⟩
    · rename_i hne
      split
      · rename_i hless
        refine List.pairwise_cons.2 ⟨fun f hf => ?_, h⟩
        rcases List.mem_cons.1 hf with rfl | hf
        · exact hless
        · exact Trans.trans hless (hfirst f hf)
      · rename_i hless
        refine List.pairwise_cons.2 ⟨fun f hf => ?_, ih hrest⟩
        rcases mem_of_mem_insertKeyed hf with rfl | hf
        · by_cases hmore : first.1 < key
          · exact hmore
          · exact absurd (Std.Trichotomous.trichotomous _ _ hless hmore) hne
        · exact hfirst f hf

end Insertion

/-- In an ordered list, what stands before an item is what is less than it. -/
theorem exists_split_iff {α : Type} {r : α → α → Prop} [Std.Asymm r] {l : List α}
    (h : l.Pairwise r) {P Q : α → Prop} :
    (∃ before a after, l = before ++ a :: after ∧ (∀ b ∈ before, P b) ∧ Q a) ↔
      ∃ a ∈ l, Q a ∧ ∀ b ∈ l, r b a → P b := by
  constructor
  · rintro ⟨before, a, after, rfl, hbefore, ha⟩
    refine ⟨a, by simp, ha, fun b hb hless => ?_⟩
    obtain ⟨-, hafter, -⟩ := List.pairwise_append.1 h
    rcases List.mem_append.1 hb with hb | hb
    · exact hbefore b hb
    · rcases List.mem_cons.1 hb with rfl | hb
      · exact absurd hless (Std.Asymm.asymm _ _ hless)
      · exact absurd (List.rel_of_pairwise_cons hafter hb) (Std.Asymm.asymm _ _ hless)
  · rintro ⟨a, ha, hQ, hless⟩
    obtain ⟨before, after, rfl⟩ := List.append_of_mem ha
    refine ⟨before, a, after, rfl, fun b hb => ?_, hQ⟩
    obtain ⟨-, -, hbefore⟩ := List.pairwise_append.1 h
    exact hless b (List.mem_append_left _ hb) (hbefore b hb a List.mem_cons_self)

end ExecutableUml
