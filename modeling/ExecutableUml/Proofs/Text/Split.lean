import ExecutableUml.Text.Trim

/-! Splitting text at a separator. The pieces have no separator in them, splitting goes along a
join, and a cut gives back the text it was made from. A text starts with its prefixes, and a part of
it is replaced from the left. -/

namespace ExecutableUml.Text

variable {sep : Char}

theorem splitAtChar_ne_nil (s : List Char) : splitAtChar sep s ≠ [] := by
  cases s with
  | nil => simp [splitAtChar]
  | cons c s =>
    rw [splitAtChar]
    split
    · simp
    · split <;> simp

theorem splitAtChar_append (a b : List Char) :
    splitAtChar sep (a ++ sep :: b) = splitAtChar sep a ++ splitAtChar sep b := by
  induction a with
  | nil => simp [splitAtChar]
  | cons c a ih =>
    rw [List.cons_append, splitAtChar, splitAtChar, ih]
    by_cases hc : c = sep
    · rw [if_pos hc, if_pos hc, List.cons_append]
    · rw [if_neg hc, if_neg hc]
      cases ha : splitAtChar sep a with
      | nil => exact absurd ha (splitAtChar_ne_nil a)
      | cons piece pieces => rfl

theorem splitAtChar_of_not_mem {s : List Char} (h : sep ∉ s) : splitAtChar sep s = [s] := by
  induction s with
  | nil => rfl
  | cons c s ih =>
    rw [List.mem_cons, not_or] at h
    rw [splitAtChar, if_neg (Ne.symm h.1), ih h.2]

theorem not_mem_of_mem_splitAtChar {s piece : List Char} (h : piece ∈ splitAtChar sep s) :
    sep ∉ piece := by
  induction s generalizing piece with
  | nil => simp_all [splitAtChar]
  | cons c s ih =>
    rw [splitAtChar] at h
    by_cases hc : c = sep
    · rw [if_pos hc] at h
      rcases List.mem_cons.1 h with rfl | h
      · exact List.not_mem_nil
      · exact ih h
    · rw [if_neg hc] at h
      cases hs : splitAtChar sep s with
      | nil => exact absurd hs (splitAtChar_ne_nil s)
      | cons first pieces =>
        rw [hs] at h ih
        rcases List.mem_cons.1 h with rfl | h
        · intro hmem
          rcases List.mem_cons.1 hmem with rfl | hmem
          · exact hc rfl
          · exact ih List.mem_cons_self hmem
        · exact ih (List.mem_cons_of_mem _ h)

theorem cutAtChar_eq_some {s before after : List Char} (h : cutAtChar sep s = some (before, after)) :
    s = before ++ sep :: after := by
  induction s generalizing before with
  | nil => cases h
  | cons c s ih =>
    rw [cutAtChar] at h
    split at h
    · rename_i hc
      cases h
      rw [hc, List.nil_append]
    · obtain ⟨⟨front, back⟩, hcut, heq⟩ := Option.map_eq_some_iff.1 h
      cases heq
      rw [ih hcut, List.cons_append]

theorem not_mem_of_cutAtChar {s before after : List Char}
    (h : cutAtChar sep s = some (before, after)) : sep ∉ before := by
  induction s generalizing before with
  | nil => cases h
  | cons c s ih =>
    rw [cutAtChar] at h
    split at h
    · cases h
      exact List.not_mem_nil
    · rename_i hc
      obtain ⟨⟨front, back⟩, hcut, heq⟩ := Option.map_eq_some_iff.1 h
      cases heq
      rw [List.mem_cons, not_or]
      exact ⟨Ne.symm hc, ih hcut⟩

theorem cutAtChar_append {before : List Char} (h : sep ∉ before) (after : List Char) :
    cutAtChar sep (before ++ sep :: after) = some (before, after) := by
  induction before with
  | nil => rw [List.nil_append, cutAtChar, if_pos rfl]
  | cons c before ih =>
    rw [List.mem_cons, not_or] at h
    rw [List.cons_append, cutAtChar, if_neg (Ne.symm h.1), ih h.2]
    rfl

theorem stripStart_eq_some_iff {start s rest : List Char} :
    stripStart start s = some rest ↔ s = start ++ rest := by
  induction start generalizing s with
  | nil => simp [stripStart]
  | cons p start ih =>
    cases s with
    | nil => simp [stripStart]
    | cons c s =>
      rw [stripStart, List.cons_append, List.cons.injEq]
      split
      · rename_i hc
        rw [ih, and_iff_right hc.symm]
      · rename_i hc
        simp [Ne.symm hc]

theorem startsWith_iff {start s : List Char} : startsWith start s = true ↔ start <+: s := by
  rw [startsWith, Option.isSome_iff_exists]
  exact ⟨fun ⟨rest, h⟩ => ⟨rest, (stripStart_eq_some_iff.1 h).symm⟩,
    fun ⟨rest, h⟩ => ⟨rest, stripStart_eq_some_iff.2 h.symm⟩⟩

theorem stripStart_eq_none_iff {start s : List Char} :
    stripStart start s = none ↔ ¬ start <+: s := by
  rw [← startsWith_iff, startsWith, Bool.not_eq_true, Option.isSome_eq_false_iff,
    Option.isNone_iff_eq_none]

theorem cutAtLastChar_eq_some {s before after : List Char}
    (h : cutAtLastChar sep s = some (before, after)) : s = before ++ sep :: after := by
  obtain ⟨⟨back, front⟩, hcut, heq⟩ := Option.map_eq_some_iff.1 h
  cases heq
  have hs := congrArg List.reverse (cutAtChar_eq_some hcut)
  simpa using hs

/-- The last part of a text is told by the last separator. -/
theorem eq_of_append_sep {a b x y : List Char} (hx : sep ∉ x) (hy : sep ∉ y)
    (h : a ++ sep :: x = b ++ sep :: y) : x = y := by
  rcases List.append_eq_append_iff.1 h with ⟨part, -, hpart⟩ | ⟨part, -, hpart⟩
  · cases part with
    | nil =>
      cases hpart
      rfl
    | cons c part =>
      cases hpart
      exact absurd (by simp) hx
  · cases part with
    | nil =>
      cases hpart
      rfl
    | cons c part =>
      cases hpart
      exact absurd (by simp) hy

section Replace

variable {part by_ : List Char}

theorem replaceAll_go_append (h : part ≠ []) (n : Nat) (s : List Char) :
    replaceAll.go part by_ (n + 1) (part ++ s) = by_ ++ replaceAll.go part by_ n s := by
  cases part with
  | nil => exact absurd rfl h
  | cons p ps =>
    have hstrip : stripStart (p :: ps) (p :: (ps ++ s)) = some s :=
      stripStart_eq_some_iff.2 (List.cons_append ..).symm
    rw [List.cons_append, replaceAll.go]
    exact hstrip

theorem replaceAll_go_cons {c : Char} {s : List Char} (h : ¬ part <+: c :: s) (n : Nat) :
    replaceAll.go part by_ (n + 1) (c :: s) = c :: replaceAll.go part by_ n s := by
  rw [replaceAll.go]
  intro p ps after _ hsome
  rw [stripStart_eq_none_iff.2 h] at hsome
  cases hsome

theorem replaceAll_go_eq (h : part ≠ []) {n m : Nat} {s : List Char} (hn : s.length ≤ n)
    (hm : s.length ≤ m) : replaceAll.go part by_ n s = replaceAll.go part by_ m s := by
  induction n generalizing m s with
  | zero =>
    obtain rfl := List.length_eq_zero_iff.1 (Nat.le_zero.1 hn)
    cases m with
    | zero => rfl
    | succ m => rfl
  | succ n ih =>
    cases m with
    | zero =>
      obtain rfl := List.length_eq_zero_iff.1 (Nat.le_zero.1 hm)
      rfl
    | succ m =>
      by_cases hpart : part <+: s
      · obtain ⟨rest, rfl⟩ := hpart
        have hpos := List.length_pos_iff.2 h
        rw [List.length_append] at hn hm
        have hrest : rest.length ≤ m := by omega
        rw [replaceAll_go_append h, replaceAll_go_append h, ih (by omega) hrest]
      · cases s with
        | nil => rfl
        | cons c s =>
          rw [replaceAll_go_cons hpart, replaceAll_go_cons hpart,
            ih (Nat.le_of_succ_le_succ hn) (Nat.le_of_succ_le_succ hm)]

/-- An occurrence at the start is replaced. -/
theorem replaceAll_append (h : part ≠ []) (s : List Char) :
    replaceAll part by_ (part ++ s) = by_ ++ replaceAll part by_ s := by
  have hpos := List.length_pos_iff.2 h
  rw [replaceAll, replaceAll_go_eq h (Nat.le_refl _) (Nat.le_succ _), replaceAll_go_append h,
    replaceAll, replaceAll_go_eq h _ (Nat.le_refl _)]
  rw [List.length_append]
  omega

theorem replaceAll_cons {c : Char} {s : List Char} (h : ¬ part <+: c :: s) :
    replaceAll part by_ (c :: s) = c :: replaceAll part by_ s := by
  rw [replaceAll, List.length_cons, replaceAll_go_cons h, ← replaceAll]

end Replace

end ExecutableUml.Text
