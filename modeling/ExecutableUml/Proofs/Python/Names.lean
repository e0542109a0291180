import ExecutableUml.Proofs.Document.Wiring
import ExecutableUml.Proofs.Lists
import ExecutableUml.Proofs.Text.Trim
import Mathlib.Algebra.Group.Nat.Defs
import Mathlib.Data.List.Nodup
import Mathlib.Data.List.Perm.Subperm
import Mathlib.Data.Nat.Find

/-! No two names of a project are equal in lower case. A name that is taken is numbered; the number
stands behind an underscore, which keeps the lower case of what is before it, so different numbers
give different names and one of more candidates than there are taken names is free. -/

namespace ExecutableUml

namespace Text

theorem meetsCased_append_underscore (s t : List Char) :
    meetsCased (s ++ '_' :: t) = meetsCased s := by
  induction s with
  | nil => rfl
  | cons c s ih =>
    by_cases hc : isCaseIgnorable c = true
    · simpa only [meetsCased, List.cons_append, List.dropWhile_cons_of_pos hc] using ih
    · simp only [meetsCased, List.cons_append, List.dropWhile_cons_of_neg hc]

/-- What follows an underscore does not change the lower case of what is before it. -/
theorem lowerFrom_append_underscore (before s t : List Char) :
    lowerFrom before (s ++ '_' :: t) =
      lowerFrom before s ++ '_' :: lowerFrom ('_' :: (s.reverse ++ before)) t := by
  induction s generalizing before with
  | nil => rfl
  | cons c s ih =>
    rw [List.cons_append, lowerFrom, lowerFrom, ih (c :: before), meetsCased_append_underscore]
    simp

def isNumeralChar (c : Char) : Bool := c.isDigit || c == '-'

theorem of_isNumeralChar {P : Char → Prop} (hdigits : ∀ n : Fin 10, P (Char.ofNat (48 + n.val)))
    (hminus : P '-') {c : Char} (h : isNumeralChar c = true) : P c := by
  rcases Bool.or_eq_true_iff.1 h with hdigit | hsign
  · exact of_isDigit hdigits hdigit
  · exact eq_of_beq hsign ▸ hminus

theorem isDigit_of_mem_repr {n : Nat} {c : Char} (h : c ∈ n.repr.toList) : c.isDigit = true := by
  rw [Nat.toList_repr] at h
  exact Nat.isDigit_of_mem_toDigits (by decide) (by decide) h

theorem isNumeralChar_of_mem_repr {n : Int} {c : Char} (h : c ∈ n.repr.toList) :
    isNumeralChar c = true := by
  rw [isNumeralChar, Bool.or_eq_true_iff]
  rw [Int.repr_eq_if] at h
  split at h
  · exact Or.inl (isDigit_of_mem_repr h)
  · rw [String.toList_append] at h
    rcases List.mem_append.1 h with hsign | hm
    · exact Or.inr (beq_iff_eq.2 (List.mem_singleton.1 hsign))
    · exact Or.inl (isDigit_of_mem_repr hm)

theorem eq_of_repr_toList_eq {m n : Int} (h : m.repr.toList = n.repr.toList) : m = n := by
  have hdigits : ∀ {a b : Nat}, a.repr.toList = b.repr.toList → a = b := by
    intro a b hab
    have hread := congrArg (Nat.ofDigitChars 10 · 0) hab
    simpa only [Nat.toList_repr, Nat.ofDigitChars_ten_toDigits] using hread
  have hsigned : ∀ a b : Nat, a.repr.toList ≠ ("-" ++ b.repr).toList := by
    intro a b hab
    have hsign : '-' ∈ a.repr.toList := by
      rw [hab]
      simp
    exact absurd (isDigit_of_mem_repr hsign) (by decide)
  rw [Int.repr_eq_if, Int.repr_eq_if] at h
  split at h
  · split at h
    · have hsame := hdigits h
      omega
    · exact absurd h (hsigned _ _)
  · split at h
    · exact absurd h.symm (hsigned _ _)
    · rw [String.toList_append, String.toList_append, List.append_cancel_left_eq] at h
      have hsame := hdigits h
      omega

theorem lowerFrom_numeral (before : List Char) {ds : List Char}
    (h : ∀ c ∈ ds, isNumeralChar c = true) : lowerFrom before ds = ds := by
  induction ds generalizing before with
  | nil => rfl
  | cons c ds ih =>
    obtain ⟨hlower, hsigma⟩ : lowerChar c = [c] ∧ c ≠ 'Σ' :=
      of_isNumeralChar (P := fun c => lowerChar c = [c] ∧ c ≠ 'Σ') (by decide) (by decide)
        (h c List.mem_cons_self)
    rw [lowerFrom, if_neg hsigma, hlower,
      ih (c :: before) fun d hd => h d (List.mem_cons_of_mem c hd)]
    rfl

end Text

namespace Python

open Text

theorem formNumber_eq (k : Nat) :
    formNumber k = if k ≤ 2 ^ 32 then Int.bmod (k + 1) (2 ^ 32) else k + 1 := rfl

/-- Below `2 ^ 31` the count of the forms is exact. -/
theorem formNumber_of_lt {k : Nat} (h : k + 1 < 2 ^ 31) : formNumber k = ((k + 1 : Nat) : Int) := by
  rw [formNumber_eq, if_pos (by omega), Int.bmod_def]
  omega

theorem formNumber_injective {k l : Nat} (hk : k ≠ 0) (hl : l ≠ 0)
    (h : formNumber k = formNumber l) : k = l := by
  rw [formNumber_eq, formNumber_eq, Int.bmod_def, Int.bmod_def] at h
  omega

theorem numbered_zero (base : String) : numbered base 0 = base := rfl

theorem toList_numbered_succ (base : String) (k : Nat) :
    (numbered base (k + 1)).toList = base.toList ++ '_' :: (formNumber (k + 1)).repr.toList := by
  simp [numbered, Int.toString_eq_repr]

theorem lower_numbered_zero (base : String) :
    (lower (numbered base 0)).toList = lowerFrom [] base.toList := by
  simp [numbered, lower]

theorem lower_numbered_succ (base : String) (k : Nat) :
    (lower (numbered base (k + 1))).toList =
      lowerFrom [] base.toList ++ '_' :: (formNumber (k + 1)).repr.toList := by
  rw [lower, String.toList_ofList, toList_numbered_succ, lowerFrom_append_underscore,
    lowerFrom_numeral _ fun c hc => isNumeralChar_of_mem_repr hc]

theorem lower_numbered_injective (base : String) :
    Function.Injective fun k => lower (numbered base k) := by
  intro k l h
  have hlist := congrArg String.toList h
  cases k with
  | zero =>
    cases l with
    | zero => rfl
    | succ l =>
      rw [lower_numbered_zero, lower_numbered_succ] at hlist
      simp at hlist
  | succ k =>
    cases l with
    | zero =>
      rw [lower_numbered_zero, lower_numbered_succ] at hlist
      simp at hlist
    | succ l =>
      rw [lower_numbered_succ, lower_numbered_succ, List.append_cancel_left_eq] at hlist
      have hnumber := eq_of_repr_toList_eq (List.cons.inj hlist).2
      exact formNumber_injective (Nat.succ_ne_zero k) (Nat.succ_ne_zero l) hnumber

/-- The search for a form of `base` whose key is free ends at the form numbered `k`. -/
def FirstFree (key : String → String) (taken : List String) (base : String) (k : Nat) : Prop :=
  key (numbered base k) ∉ taken ∧ ∀ j < k, key (numbered base j) ∈ taken

/-- A key that tells the numbered forms of a name apart is free for one of them. -/
theorem exists_free {key : String → String} {base : String}
    (h : Function.Injective fun k => key (numbered base k)) (taken : List String) :
    ∃ k, k ≤ taken.length ∧ key (numbered base k) ∉ taken := by
  by_contra hnone
  have hsub : (List.range (taken.length + 1)).map (fun k => key (numbered base k)) ⊆ taken := by
    intro c hc
    obtain ⟨k, hk, rfl⟩ := List.mem_map.1 hc
    by_contra hnot
    exact hnone ⟨k, Nat.lt_succ_iff.1 (List.mem_range.1 hk), hnot⟩
  have hlength := ((List.nodup_range.map h).subperm hsub).length_le
  simp only [List.length_map, List.length_range] at hlength
  omega

/-- The search ends, after no more steps than there are taken keys. -/
theorem exists_firstFree (key : String → String) {base : String}
    (h : Function.Injective fun k => key (numbered base k)) (taken : List String) :
    ∃ k ≤ taken.length, FirstFree key taken base k := by
  classical
  have hfree := exists_free h taken
  obtain ⟨hk, hnot⟩ := Nat.find_spec hfree
  refine ⟨Nat.find hfree, hk, hnot, fun j hj => ?_⟩
  by_contra hj'
  exact Nat.find_min hfree hj ⟨by omega, hj'⟩

theorem freeName_of_firstFree {key : String → String} {taken : List String} {base : String}
    {k : Nat} (h : FirstFree key taken base k) (hk : k ≤ taken.length) :
    freeName key taken base = numbered base k := by
  have hfound : (List.range (taken.length + 1)).find?
      ((fun c => !taken.contains (key c)) ∘ numbered base) = some k := by
    rw [List.find?_range_eq_some]
    refine ⟨by simpa using h.1, List.mem_range.2 (by omega), fun j hj => ?_⟩
    simpa using h.2 j hj
  rw [freeName, List.find?_map, hfound]
  rfl

theorem freeName_not_mem {key : String → String} {base : String}
    (h : Function.Injective fun k => key (numbered base k)) (taken : List String) :
    key (freeName key taken base) ∉ taken := by
  obtain ⟨k, hk, hfirst⟩ := exists_firstFree key h taken
  rw [freeName_of_firstFree hfirst hk]
  exact hfirst.1

theorem length_namesFrom (taken names : List String) :
    (namesFrom taken names).length = names.length := by
  induction names generalizing taken with
  | nil => rfl
  | cons name names ih => simp [namesFrom, ih]

theorem lower_not_mem_of_mem_namesFrom {taken names : List String} {name : String}
    (h : name ∈ namesFrom taken names) : lower name ∉ taken := by
  induction names generalizing taken with
  | nil => simp [namesFrom] at h
  | cons first names ih =>
    rw [namesFrom] at h
    rcases List.mem_cons.1 h with rfl | h
    · exact freeName_not_mem (lower_numbered_injective _) taken
    · exact fun hmem => ih h (List.mem_cons_of_mem _ hmem)

theorem namesFrom_nodup (taken names : List String) :
    ((namesFrom taken names).map lower).Nodup := by
  induction names generalizing taken with
  | nil => exact List.nodup_nil
  | cons name names ih =>
    rw [namesFrom, List.map_cons, List.nodup_cons]
    refine ⟨fun hmem => ?_, ih _⟩
    obtain ⟨later, hlater, heq⟩ := List.mem_map.1 hmem
    exact lower_not_mem_of_mem_namesFrom hlater (heq ▸ List.mem_cons_self)

end Python

open Text Document

namespace Model

theorem names_ofDocument (doc : Json) :
    (ofDocument doc).classes.map (fun c => c.name) =
      (Roster.ofDocument doc).map ClassNaming.name := by
  rw [ofDocument, Generalization.wire_ofDocument, map_mapIdx, Roster.ofDocument, List.map_map]
  exact mapIdx_eq_map (ClassNaming.name ∘ ClassNaming.ofEntry) (classEntries doc)

/-- The names in the code are given out in the order of the classes, then of those made for
relationships. -/
theorem pyNames_ofDocument (doc : Json) :
    (ofDocument doc).classes.map Class.pyName ++
        (ofDocument doc).associations.map AssociationClass.pyName =
      Python.distinctNames ((ofDocument doc).classes.map (fun c => c.name) ++
        (ofDocument doc).associations.map AssociationClass.name) := by
  have hmade : (ofDocument doc).associations.map AssociationClass.name =
      ((entries doc "relationships").filterMap
        (AssociationClass.ofEntry (Roster.ofDocument doc))).map AssociationClass.name := by
    rw [ofDocument, map_mapIdx]
    exact mapIdx_eq_map AssociationClass.name _
  rw [names_ofDocument, hmade, ofDocument, Generalization.wire_ofDocument, map_mapIdx, map_mapIdx]
  generalize hmadeNames : (entries doc "relationships").filterMap
    (AssociationClass.ofEntry (Roster.ofDocument doc)) = made
  generalize hnames : Python.distinctNames
    ((Roster.ofDocument doc).map ClassNaming.name ++ made.map AssociationClass.name) = names
  have hentries : (Roster.ofDocument doc).length = (classEntries doc).length := List.length_map _
  have hlength : names.length = (classEntries doc).length + made.length := by
    rw [← hnames, Python.distinctNames, Python.length_namesFrom]
    simp [hentries]
  have hfirst := mapIdx_getD (classEntries doc) names 0 (by omega)
  have hrest := mapIdx_getD made names (classEntries doc).length (by omega)
  simp only [Nat.zero_add, List.drop_zero] at hfirst
  simp only [Class.placed, Class.ofEntry, hentries]
  rw [hfirst, hrest, List.take_of_length_le (l := names.drop _) (by simp; omega),
    List.take_append_drop]

theorem pyNames_nodup (doc : Json) :
    (((ofDocument doc).classes.map Class.pyName ++
      (ofDocument doc).associations.map AssociationClass.pyName).map lower).Nodup := by
  rw [pyNames_ofDocument]
  exact Python.namesFrom_nodup [] _

end Model

end ExecutableUml
