import ExecutableUml.Text.CharClass
import ExecutableUml.Text.Trim
import Mathlib.Data.List.TakeWhile

/-! Trimmed text is text without a blank at either end, blanks around a text do not count when it is
trimmed, and no character of a word is blank. -/

namespace ExecutableUml.Text

variable {s : List Char} {c : Char}

theorem trimEnd_prefix (s : List Char) : trimEnd s <+: s := by
  have h := List.dropWhile_suffix (l := s.reverse) isBlank
  rw [← List.reverse_prefix, List.reverse_reverse] at h
  exact h

theorem head_trim (s : List Char) : ∀ c ∈ (trim s).head?, isBlank c = false := by
  intro c hc
  obtain ⟨rest, hrest⟩ := trimEnd_prefix (trimStart s)
  have hd := List.head?_dropWhile_not isBlank s
  rw [← trimStart, ← hrest, ← trim, List.head?_append, Option.mem_def.1 hc] at hd
  simpa using hd

theorem last_trim (s : List Char) : ∀ c ∈ (trim s).getLast?, isBlank c = false := by
  intro c hc
  have hd := List.head?_dropWhile_not isBlank (trimStart s).reverse
  rw [← List.getLast?_reverse, ← trimEnd, ← trim, Option.mem_def.1 hc] at hd
  simpa using hd

theorem head_of_trim (h : trim s = s) : ∀ c ∈ s.head?, isBlank c = false := h ▸ head_trim s

theorem last_of_trim (h : trim s = s) : ∀ c ∈ s.getLast?, isBlank c = false := h ▸ last_trim s

theorem trimEnd_eq_self (hlast : ∀ c ∈ s.getLast?, isBlank c = false) : trimEnd s = s := by
  rw [trimEnd]
  rw [← List.head?_reverse] at hlast
  cases hr : s.reverse with
  | nil => simpa using hr.symm
  | cons c r =>
    rw [hr] at hlast
    rw [List.dropWhile_cons_of_neg (by simp [hlast c rfl]), ← hr, List.reverse_reverse]

theorem trimEnd_append {blanks : List Char} (h : ∀ c ∈ blanks, isBlank c = true) (s : List Char) :
    trimEnd (s ++ blanks) = trimEnd s := by
  rw [trimEnd, List.reverse_append,
    List.dropWhile_append_of_pos fun c hc => h c (List.mem_reverse.1 hc), ← trimEnd]

theorem trimEnd_takes (s : List Char) :
    ∃ blanks, s = trimEnd s ++ blanks ∧ ∀ c ∈ blanks, isBlank c = true := by
  refine ⟨(s.reverse.takeWhile isBlank).reverse, ?_, fun c hc => ?_⟩
  · rw [trimEnd, ← List.reverse_append, List.takeWhile_append_dropWhile, List.reverse_reverse]
  · exact List.all_eq_true.1 List.all_takeWhile c (List.mem_reverse.1 hc)

theorem trim_eq_self (hhead : ∀ c ∈ s.head?, isBlank c = false)
    (hlast : ∀ c ∈ s.getLast?, isBlank c = false) : trim s = s := by
  have hstart : trimStart s = s := by
    cases s with
    | nil => rfl
    | cons c s => exact List.dropWhile_cons_of_neg (by simp [hhead c rfl])
  rw [trim, hstart, trimEnd_eq_self hlast]

theorem trim_trim (s : List Char) : trim (trim s) = trim s :=
  trim_eq_self (head_trim s) (last_trim s)

theorem trim_takes (s : List Char) :
    ∃ lead trail, s = lead ++ (trim s ++ trail) ∧ (∀ c ∈ lead, isBlank c = true) ∧
      ∀ c ∈ trail, isBlank c = true := by
  obtain ⟨trail, htrail, hblank⟩ := trimEnd_takes (trimStart s)
  refine ⟨s.takeWhile isBlank, trail, ?_, List.all_eq_true.1 List.all_takeWhile, hblank⟩
  rw [trim, ← htrail, trimStart, List.takeWhile_append_dropWhile]

theorem trim_padded {lead trail : List Char} (hlead : ∀ c ∈ lead, isBlank c = true)
    (htrail : ∀ c ∈ trail, isBlank c = true) (s : List Char) :
    trim (lead ++ (s ++ trail)) = trim s := by
  have hstart : trimStart (lead ++ (s ++ trail)) = trimStart (s ++ trail) :=
    List.dropWhile_append_of_pos hlead
  rw [trim, hstart, trim]
  by_cases hs : ∀ c ∈ s, isBlank c = true
  · have hnone : trimStart s = [] := List.dropWhile_eq_nil_iff.2 hs
    have hall : trimStart (s ++ trail) = [] :=
      List.dropWhile_eq_nil_iff.2 (List.forall_mem_append.2 ⟨hs, htrail⟩)
    rw [hnone, hall]
  · have hne : s.dropWhile isBlank ≠ [] := mt List.dropWhile_eq_nil_iff.1 hs
    have hsplit : trimStart (s ++ trail) = trimStart s ++ trail := by
      rw [trimStart, List.dropWhile_append, if_neg (by simpa using hne), trimStart]
    rw [hsplit, trimEnd_append htrail]

theorem trimmed_eq_self {text : String} (h : ∀ c ∈ text.toList, isBlank c = false) :
    trimmed text = text := by
  rw [trimmed, trim_eq_self, String.ofList_toList]
  · exact fun c hc => h c (List.mem_of_mem_head? hc)
  · exact fun c hc => h c (List.mem_of_mem_getLast? hc)

/-- What holds of each of the ten digits holds of every digit. -/
theorem of_isDigit {P : Char → Prop} (h : ∀ n : Fin 10, P (Char.ofNat (48 + n.val)))
    (hc : c.isDigit = true) : P c := by
  have hrange : 48 ≤ c.toNat ∧ c.toNat ≤ 57 := by
    simpa [Char.isDigit, UInt32.le_iff_toNat_le] using hc
  have hp := h ⟨c.toNat - 48, by omega⟩
  rwa [Nat.add_sub_cancel' hrange.1, Char.ofNat_toNat] at hp

theorem Ranges.has_of_disjoint {rs qs : Ranges}
    (h : ∀ r ∈ rs, ∀ q ∈ qs, r.2 < q.1 ∨ q.2 < r.1) (hc : rs.has c = true) : qs.has c = false := by
  obtain ⟨r, hr, hin⟩ := List.any_eq_true.1 hc
  rw [Bool.eq_false_iff]
  intro hq
  obtain ⟨q, hq, hin'⟩ := List.any_eq_true.1 hq
  simp only [Bool.and_eq_true, decide_eq_true_eq] at hin hin'
  have := h r hr q hq
  omega

theorem isWordChar_of_isBlank (h : isBlank c = true) : isWordChar c = false := by
  by_cases hc : c.toNat < 128
  · have hlow : c.toNat < 33 := by
      simp only [isBlank, Ranges.has, blankRanges, List.any_cons, List.any_nil, Bool.or_false,
        Bool.or_eq_true, Bool.and_eq_true, decide_eq_true_eq] at h
      omega
    have hcontrols : ∀ n : Fin 33, isWordChar (Char.ofNat n.val) = false := by decide
    have hword := hcontrols ⟨c.toNat, hlow⟩
    rwa [Char.ofNat_toNat] at hword
  · have hletter : isLetter c = false := by
      rw [isLetter, if_neg hc]
      exact Ranges.has_of_disjoint (by decide +kernel) h
    have hnumeral : isNumeral c = false := by
      rw [isNumeral, if_neg hc]
      exact Ranges.has_of_disjoint (by decide +kernel) h
    have hunderscore : (c == '_') = false := by
      rw [beq_eq_false_iff_ne]
      rintro rfl
      exact hc (by decide)
    rw [isWordChar, hletter, hnumeral, hunderscore]
    rfl

def EndsClean (text : String) : Prop := ∃ c ∈ text.toList.getLast?, isBlank c = false

theorem EndsClean.append {second : String} (h : EndsClean second) (first : String) :
    EndsClean (first ++ second) := by
  obtain ⟨c, hc, hb⟩ := h
  refine ⟨c, ?_, hb⟩
  rw [String.toList_append, List.getLast?_append, Option.mem_def.1 hc]
  rfl

end ExecutableUml.Text
