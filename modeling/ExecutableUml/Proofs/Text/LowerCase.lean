import ExecutableUml.Text.Case
import ExecutableUml.Text.Trim

/-! Text in lower case. Texts with the same letters have the same blanks, and characters in front of
the letters and the digits are the lower case of nothing but themselves. -/

namespace ExecutableUml.Text

/-- The ASCII case of letters aside, the same text. -/
def SameLetters (a b : List Char) : Prop := a.map Char.toLower = b.map Char.toLower

theorem toLower_cases (c : Char) : c.toLower = c ∨ ∃ n : Fin 26, c = Char.ofNat (65 + n.val) := by
  by_cases h : 'A'.val ≤ c.val ∧ c.val ≤ 'Z'.val
  · have hrange : 65 ≤ c.toNat ∧ c.toNat ≤ 90 := by
      simpa [UInt32.le_iff_toNat_le] using h
    refine Or.inr ⟨⟨c.toNat - 65, by omega⟩, ?_⟩
    simp only [Nat.add_sub_cancel' hrange.1, Char.ofNat_toNat]
  · exact Or.inl (dif_neg h)

/-- What takes capital and small letters alike does not see the case. -/
theorem toLower_invariant {α : Type} {f : Char → α}
    (h : ∀ n : Fin 26, f (Char.ofNat (65 + n.val)).toLower = f (Char.ofNat (65 + n.val)))
    (c : Char) : f c.toLower = f c := by
  rcases toLower_cases c with hc | ⟨n, rfl⟩
  · rw [hc]
  · exact h n

theorem isBlank_toLower (c : Char) : isBlank c.toLower = isBlank c :=
  toLower_invariant (by decide) c

namespace SameLetters

variable {a b : List Char}

theorem symm (h : SameLetters a b) : SameLetters b a := Eq.symm h

theorem trans {c : List Char} (h : SameLetters a b) (hc : SameLetters b c) : SameLetters a c :=
  Eq.trans h hc

/-- A test of characters that does not see the case holds of all of them or of none. -/
theorem forall_mem {p : Char → Bool} (hp : ∀ c, p c.toLower = p c) {v : Bool}
    (h : SameLetters a b) (ha : ∀ c ∈ a, p c = v) : ∀ c ∈ b, p c = v := by
  intro c hc
  have hlow : c.toLower ∈ b.map Char.toLower := List.mem_map_of_mem hc
  rw [← h] at hlow
  obtain ⟨d, hd, hcd⟩ := List.mem_map.1 hlow
  rw [← hp, ← hcd, hp]
  exact ha d hd

theorem blank (h : SameLetters a b) (ha : ∀ c ∈ a, isBlank c = true) :
    ∀ c ∈ b, isBlank c = true :=
  h.forall_mem isBlank_toLower ha

theorem dropWhile (h : SameLetters a b) :
    SameLetters (a.dropWhile isBlank) (b.dropWhile isBlank) := by
  have hmap : ∀ s : List Char,
      (s.dropWhile isBlank).map Char.toLower = (s.map Char.toLower).dropWhile isBlank := by
    intro s
    rw [List.dropWhile_map, show isBlank ∘ Char.toLower = isBlank from funext isBlank_toLower]
  rw [SameLetters, hmap, hmap, h]

theorem reverse (h : SameLetters a b) : SameLetters a.reverse b.reverse := by
  rw [SameLetters, List.map_reverse, List.map_reverse, h]

theorem trim (h : SameLetters a b) : SameLetters (trim a) (trim b) :=
  h.dropWhile.reverse.dropWhile.reverse

end SameLetters

section Low

variable {low : Char}

theorem low_ne_ofNat (hpos : 0 < low.toNat) (hlow : low.toNat ≤ 40) {n : Nat} (h : 41 ≤ n) :
    low ≠ Char.ofNat n := by
  rintro rfl
  by_cases hvalid : n.isValidChar
  · have hsame : (Char.ofNat n).toNat = n := congrArg Char.toNat (dif_pos hvalid)
    omega
  · have hnull : (Char.ofNat n).toNat = 0 := congrArg Char.toNat (dif_neg hvalid)
    omega

theorem low_not_mem_expand (hpos : 0 < low.toNat) (hlow : low.toNat ≤ 40) {c : Char} (h : c ≠ low) :
    low ∉ expand lowerExpansions lowerShifts c := by
  have hexpansions : (lowerExpansions.all fun e => e.2.all fun n => decide (41 ≤ n)) = true := by
    decide +kernel
  have hshifts : (lowerShifts.all fun s => decide (41 ≤ (s.first : Int) + s.offset)) = true := by
    decide +kernel
  rw [expand]
  split
  · rename_i e he
    intro hmem
    obtain ⟨n, hn, hsame⟩ := List.mem_map.1 hmem
    have hcodes := List.all_eq_true.1 hexpansions e (List.mem_of_find?_eq_some he)
    have hcode : 41 ≤ n := of_decide_eq_true (List.all_eq_true.1 hcodes n hn)
    exact low_ne_ofNat hpos hlow hcode hsame.symm
  · split
    · rename_i n hn
      obtain ⟨s, hs, himage⟩ := List.exists_of_findSome?_eq_some hn
      have hfirst : 41 ≤ (s.first : Int) + s.offset :=
        of_decide_eq_true (List.all_eq_true.1 hshifts s hs)
      rw [Shift.image?] at himage
      split at himage
      · rename_i hrange
        cases himage
        simp only [Bool.and_eq_true, decide_eq_true_eq] at hrange
        rw [List.mem_singleton]
        exact low_ne_ofNat hpos hlow (by omega)
      · cases himage
    · simpa using Ne.symm h

theorem low_not_mem_lowerChar (hpos : 0 < low.toNat) (hlow : low.toNat ≤ 40) {c : Char}
    (h : c ≠ low) : low ∉ lowerChar c := by
  rw [lowerChar]
  split
  · rename_i hascii
    have hall : ∀ n : Fin 128, (Char.ofNat n.val).toLower.toNat ≤ 40 →
        (Char.ofNat n.val).toLower = Char.ofNat n.val := by decide
    have hc := hall ⟨c.toNat, hascii⟩
    rw [Char.ofNat_toNat] at hc
    rw [List.mem_singleton]
    rintro rfl
    exact h (hc hlow).symm
  · exact low_not_mem_expand hpos hlow h

theorem low_not_mem_lowerFrom (hpos : 0 < low.toNat) (hlow : low.toNat ≤ 40) {s : List Char}
    (h : low ∉ s) (before : List Char) : low ∉ lowerFrom before s := by
  induction s generalizing before with
  | nil => simp [lowerFrom]
  | cons c s ih =>
    obtain ⟨hc, hs⟩ := not_or.1 (mt List.mem_cons.2 h)
    rw [lowerFrom, List.mem_append, not_or]
    refine ⟨?_, ih hs (c :: before)⟩
    split
    · rw [List.mem_singleton]
      split
      all_goals
        rintro rfl
        exact absurd hlow (by decide)
    · exact low_not_mem_lowerChar hpos hlow (Ne.symm hc)

end Low

end ExecutableUml.Text
