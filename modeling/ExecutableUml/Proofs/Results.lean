/-! Steps that may fail, and traversals that stop at the first failure. -/

namespace ExecutableUml

variable {ε α β : Type}

theorem ok_of_bind {x : Except ε α} {f : α → Except ε β} {b : β}
    (h : x >>= f = .ok b) : ∃ a, x = .ok a ∧ f a = .ok b := by
  cases x with
  | error e => cases h
  | ok a => exact ⟨a, rfl, h⟩

theorem ok_of_throwIf {c : Prop} [Decidable c] {e : ε} {rest : PUnit → Except ε β}
    {b : β} (h : (if c then throw e >>= rest else rest ⟨⟩) = .ok b) : ¬c ∧ rest ⟨⟩ = .ok b := by
  by_cases hc : c
  · rw [if_pos hc] at h
    cases h
  · rw [if_neg hc] at h
    exact ⟨hc, h⟩

theorem bind_eq_error_iff {x : Except ε α} {f : α → Except ε β} {e : ε} :
    x >>= f = .error e ↔ x = .error e ∨ ∃ a, x = .ok a ∧ f a = .error e := by
  cases x with
  | error e' => simp [bind, Except.bind]
  | ok a => simp [bind, Except.bind]

theorem map_eq_error_iff {x : Except ε α} {f : α → β} {e : ε} :
    x.map f = .error e ↔ x = .error e := by
  cases x with
  | error e' => simp [Except.map]
  | ok a => simp [Except.map]

theorem map_eq_ok_iff {x : Except ε α} {f : α → β} {b : β} :
    x.map f = .ok b ↔ ∃ a, x = .ok a ∧ f a = b := by
  cases x with
  | error e => simp [Except.map]
  | ok a => simp [Except.map]

/-- A traversal fails with the failure of the first item that has one. -/
theorem mapM_eq_error_iff {f : α → Except ε β} {l : List α} {e : ε} :
    l.mapM f = .error e ↔
      ∃ before a after, l = before ++ a :: after ∧ (∀ b ∈ before, ∃ r, f b = .ok r) ∧
        f a = .error e := by
  induction l with
  | nil =>
    constructor
    · intro h
      cases h
    · rintro ⟨before, a, after, h, -⟩
      simp at h
  | cons first l ih =>
    rw [List.mapM_cons, bind_eq_error_iff]
    constructor
    · rintro (h | ⟨r, hr, h⟩)
      · exact ⟨[], first, l, rfl, by simp, h⟩
      · rcases bind_eq_error_iff.1 h with h | ⟨rs, -, h⟩
        · obtain ⟨before, a, after, rfl, hbefore, ha⟩ := ih.1 h
          exact ⟨first :: before, a, after, rfl, List.forall_mem_cons.2 ⟨⟨r, hr⟩, hbefore⟩, ha⟩
        · cases h
    · rintro ⟨before, a, after, h, hbefore, ha⟩
      cases before with
      | nil =>
        obtain ⟨rfl, rfl⟩ := List.cons.inj h
        exact .inl ha
      | cons b before =>
        obtain ⟨rfl, rfl⟩ := List.cons.inj h
        obtain ⟨⟨r, hr⟩, hbefore⟩ := List.forall_mem_cons.1 hbefore
        exact .inr ⟨r, hr, bind_eq_error_iff.2 (.inl (ih.2 ⟨before, a, after, rfl, hbefore, ha⟩))⟩

/-- Two traversals with steps that fail alike fail alike. -/
theorem length_mapM {f : α → Except ε β} {g : α → Except ε Unit}
    (h : ∀ a, (f a).map (fun _ => ()) = g a) (l : List α) :
    (l.mapM f).map List.length = (l.mapM g).map fun _ => l.length := by
  induction l with
  | nil => rfl
  | cons a l ih =>
    rw [List.mapM_cons, List.mapM_cons, ← h a]
    cases f a with
    | error e => rfl
    | ok b =>
      cases hf : l.mapM f with
      | error e =>
        cases hg : l.mapM g with
        | error e' =>
          rw [hf, hg] at ih
          cases ih
          rfl
        | ok us =>
          rw [hf, hg] at ih
          cases ih
      | ok bs =>
        cases hg : l.mapM g with
        | error e =>
          rw [hf, hg] at ih
          cases ih
        | ok us =>
          rw [hf, hg] at ih
          have hlength : bs.length = l.length := Except.ok.inj ih
          exact congrArg (fun n => Except.ok (n + 1)) hlength

end ExecutableUml
