import Mathlib.Data.List.Forall2

/-! Lists: maps that know the place of an item, lists that differ at one place, and two lists that
go along item by item. -/

namespace ExecutableUml

theorem findIdx?_congr {α : Type} {p q : α → Bool} {l : List α} (h : ∀ a ∈ l, p a = q a) :
    l.findIdx? p = l.findIdx? q := by
  induction l with
  | nil => rfl
  | cons a l ih =>
    rw [List.findIdx?_cons, List.findIdx?_cons, h a (by simp),
      ih fun b hb => h b (List.mem_cons_of_mem a hb)]

theorem map_mapIdx {α β γ : Type} (g : β → γ) (f : Nat → α → β) (l : List α) :
    (l.mapIdx f).map g = l.mapIdx fun i a => g (f i a) := by
  apply List.ext_getElem
  · simp
  · simp

theorem mapIdx_eq_map {α β : Type} (f : α → β) (l : List α) : l.mapIdx (fun _ => f) = l.map f := by
  apply List.ext_getElem
  · simp
  · simp

/-- Reading a list by the places of another one gives the part of it that is as long. -/
theorem mapIdx_getD {α : Type} (l : List α) (names : List String) (start : Nat)
    (h : start + l.length ≤ names.length) :
    l.mapIdx (fun i _ => (names[start + i]?).getD "") = (names.drop start).take l.length := by
  apply List.ext_getElem
  · simp only [List.length_mapIdx, List.length_take, List.length_drop]
    omega
  · intro i hi _
    rw [List.length_mapIdx] at hi
    rw [List.getElem_mapIdx, List.getElem_take, List.getElem_drop,
      List.getElem?_eq_getElem (by omega), Option.getD_some]

theorem map_modify {α β : Type} {f : α → β} {g : α → α} (h : ∀ a, f (g a) = f a) (k : Nat)
    (l : List α) : (l.modify k g).map f = l.map f := by
  apply List.ext_getElem?
  intro i
  rw [List.getElem?_map, List.getElem?_map, List.getElem?_modify]
  cases l[i]? with
  | none => rfl
  | some a =>
    by_cases hi : k = i
    · simp [hi, h]
    · simp [hi]

/-- Lists that are the same up to what is blanked out at one place differ at that place only. -/
theorem split_of_modify_eq {α : Type} {g : α → α} {k : Nat} {l l' : List α} {a a' : α}
    (h : l.modify k g = l'.modify k g) (ha : l[k]? = some a) (ha' : l'[k]? = some a') :
    ∃ before after, before.length = k ∧ l = before ++ a :: after ∧ l' = before ++ a' :: after := by
  induction k generalizing l l' with
  | zero =>
    cases l with
    | nil => cases ha
    | cons b rest =>
      cases l' with
      | nil => cases ha'
      | cons b' rest' =>
        cases ha
        cases ha'
        exact ⟨[], rest, rfl, rfl, by rw [(List.cons.inj h).2]; rfl⟩
  | succ k ih =>
    cases l with
    | nil => cases ha
    | cons b rest =>
      cases l' with
      | nil => cases ha'
      | cons b' rest' =>
        obtain ⟨rfl, hrest⟩ := List.cons.inj h
        obtain ⟨before, after, hlength, rfl, rfl⟩ := ih hrest ha ha'
        exact ⟨b :: before, after, congrArg Nat.succ hlength, rfl, rfl⟩

/-- Functions that agree but at one place map such lists to lists that differ there only. -/
theorem mapIdx_split {α β : Type} {f g : Nat → α → β} {before after : List α}
    (h : ∀ i, ∀ b ∈ before ++ after, f i b = g i b) (a a' : α) :
    ∃ front back, (before ++ a :: after).mapIdx f = front ++ f before.length a :: back ∧
      (before ++ a' :: after).mapIdx g = front ++ g before.length a' :: back := by
  have hbefore : before.mapIdx g = before.mapIdx f := by
    rw [List.mapIdx_eq_mapIdx_iff]
    intro i hi
    rw [h i _ (List.mem_append_left _ (List.getElem_mem hi))]
  have hafter : (after.mapIdx fun i => g (i + 1 + before.length)) =
      after.mapIdx fun i => f (i + 1 + before.length) := by
    rw [List.mapIdx_eq_mapIdx_iff]
    intro i hi
    rw [h _ _ (List.mem_append_right _ (List.getElem_mem hi))]
  refine ⟨before.mapIdx f, after.mapIdx fun i => f (i + 1 + before.length), ?_, ?_⟩
  · rw [List.mapIdx_append, List.mapIdx_cons, Nat.zero_add]
  · rw [List.mapIdx_append, List.mapIdx_cons, Nat.zero_add, hbefore, hafter]

theorem forall₂_filterMap {α β : Type} {R : α → β → Prop} {f : α → Option β} {l : List α}
    (h : ∀ a ∈ l, ∃ b, f a = some b ∧ R a b) : List.Forall₂ R l (l.filterMap f) := by
  induction l with
  | nil => exact .nil
  | cons a l ih =>
    obtain ⟨b, hb, hR⟩ := h a List.mem_cons_self
    rw [List.filterMap_cons_some hb]
    exact .cons hR (ih fun a' ha' => h a' (List.mem_cons_of_mem a ha'))

theorem forall₂_map {α β : Type} {R : α → β → Prop} {f : α → β} {l : List α}
    (h : ∀ a ∈ l, R a (f a)) : List.Forall₂ R l (l.map f) :=
  List.forall₂_map_right_iff.2 (List.forall₂_same.2 h)

theorem forall₂_mapIdx {α β : Type} {R : α → β → Prop} {f : Nat → α → β} {l : List α}
    (h : ∀ i, ∀ a ∈ l, R a (f i a)) : List.Forall₂ R l (l.mapIdx f) := by
  induction l generalizing f with
  | nil => exact .nil
  | cons a l ih =>
    rw [List.mapIdx_cons]
    exact .cons (h 0 a List.mem_cons_self)
      (ih fun i a' ha' => h (i + 1) a' (List.mem_cons_of_mem a ha'))

end ExecutableUml
