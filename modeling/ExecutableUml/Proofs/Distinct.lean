import ExecutableUml.Distinct

/-! What `distinct` keeps is in the list, no two of it are the same, and whatever it drops is the
same as something kept. -/

namespace ExecutableUml

variable {α : Type} {same : α → α → Bool}

theorem distinctFrom_sublist (seen l : List α) : (distinctFrom same seen l).Sublist l := by
  induction l generalizing seen with
  | nil => exact List.Sublist.slnil
  | cons b l ih =>
    rw [distinctFrom]
    split
    · exact (ih seen).cons b
    · exact (ih (b :: seen)).cons_cons b

theorem mem_of_mem_distinctFrom {seen l : List α} {a : α} (h : a ∈ distinctFrom same seen l) :
    a ∈ l :=
  (distinctFrom_sublist seen l).subset h

theorem same_of_mem_distinctFrom (hrefl : ∀ a, same a a = true) (seen : List α) {l : List α} {a : α}
    (h : a ∈ l) :
    (∃ b ∈ seen, same b a = true) ∨ ∃ b ∈ distinctFrom same seen l, same b a = true := by
  induction l generalizing seen with
  | nil => simp at h
  | cons first l ih =>
    rw [distinctFrom]
    split
    · rename_i hseen
      rcases List.mem_cons.1 h with rfl | h
      · exact .inl (List.any_eq_true.1 hseen)
      · exact ih seen h
    · rcases List.mem_cons.1 h with rfl | h
      · exact .inr ⟨a, List.mem_cons_self, hrefl a⟩
      · rcases ih (first :: seen) h with ⟨b, hb, hba⟩ | ⟨b, hb, hba⟩
        · rcases List.mem_cons.1 hb with rfl | hb
          · exact .inr ⟨b, List.mem_cons_self, hba⟩
          · exact .inl ⟨b, hb, hba⟩
        · exact .inr ⟨b, List.mem_cons_of_mem first hb, hba⟩

theorem exists_same_of_mem (hrefl : ∀ a, same a a = true) {l : List α} {a : α} (h : a ∈ l) :
    ∃ b ∈ distinct same l, same b a = true := by
  rcases same_of_mem_distinctFrom hrefl [] h with ⟨b, hb, -⟩ | hkept
  · simp at hb
  · exact hkept

theorem distinctFrom_pairwise (seen l : List α) :
    (distinctFrom same seen l).Pairwise (fun a b => same a b = false) ∧
      ∀ b ∈ distinctFrom same seen l, ∀ a ∈ seen, same a b = false := by
  induction l generalizing seen with
  | nil => simp [distinctFrom]
  | cons first l ih =>
    rw [distinctFrom]
    split
    · exact ih seen
    · rename_i hnew
      obtain ⟨hkept, hseen⟩ := ih (first :: seen)
      refine ⟨List.pairwise_cons.2 ⟨fun b hb => hseen b hb first List.mem_cons_self, hkept⟩, ?_⟩
      intro b hb a ha
      rcases List.mem_cons.1 hb with rfl | hb
      · exact Bool.eq_false_iff.2 fun hsame => hnew (List.any_eq_true.2 ⟨a, ha, hsame⟩)
      · exact hseen b hb a (List.mem_cons_of_mem first ha)

theorem distinct_pairwise (l : List α) :
    (distinct same l).Pairwise fun a b => same a b = false :=
  (distinctFrom_pairwise [] l).1

/-- A search that does not tell the same items apart finds among the kept ones what it finds in the
list. -/
theorem find?_distinctFrom {p : α → Bool} (hp : ∀ a b, same a b = true → p a = p b)
    {seen : List α} (hseen : ∀ a ∈ seen, p a = false) (l : List α) :
    (distinctFrom same seen l).find? p = l.find? p := by
  induction l generalizing seen with
  | nil => rfl
  | cons first l ih =>
    rw [distinctFrom]
    split
    · rename_i hany
      obtain ⟨a, ha, hsame⟩ := List.any_eq_true.1 hany
      have hfirst : p first = false := (hp a first hsame).symm.trans (hseen a ha)
      rw [ih hseen, List.find?_cons_of_neg (by simp [hfirst])]
    · cases hfirst : p first with
      | true => rw [List.find?_cons_of_pos hfirst, List.find?_cons_of_pos hfirst]
      | false =>
        have hseen' : ∀ a ∈ first :: seen, p a = false := by simpa [hfirst] using hseen
        rw [List.find?_cons_of_neg (by simp [hfirst]), List.find?_cons_of_neg (by simp [hfirst]),
          ih hseen']

/-- A search for a key that no two items share finds its item. -/
theorem find?_of_nodup {α κ : Type} [BEq κ] [LawfulBEq κ] {key : α → κ} {l : List α} {a : α}
    (h : (l.map key).Nodup) (ha : a ∈ l) : (l.find? fun b => key b == key a) = some a := by
  induction l with
  | nil => cases ha
  | cons b l ih =>
    rw [List.map_cons, List.nodup_cons] at h
    rcases List.mem_cons.1 ha with rfl | ha
    · exact List.find?_cons_of_pos (beq_self_eq_true _)
    · have hne : (key b == key a) = false := by
        rw [beq_eq_false_iff_ne]
        intro heq
        exact h.1 (heq ▸ List.mem_map_of_mem ha)
      rw [List.find?_cons_of_neg (by simp [hne])]
      exact ih h.2 ha

end ExecutableUml
