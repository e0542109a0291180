import ExecutableUml.Proofs.Text.Trim
import ExecutableUml.Python.Literal
import Mathlib.Algebra.Order.Ring.Int

/-! Integers as default values. What is written for one is the numeral of a number of 64 bits: the
integer itself where it fits, the largest such number for a greater JSON integer, and zero for a
text whose leading integer does not fit. So the value is kept exactly when it fits. -/

namespace ExecutableUml.Python

open Text Decimal

/-- The number that decimal digits denote, each by its place. -/
def placeValue : List Char → Nat
  | [] => 0
  | d :: ds => (d.toNat - '0'.toNat) * 10 ^ ds.length + placeValue ds

/-- The text is the decimal numeral of the integer: digits without a zero in front of others, and a
minus in front of them if the integer is negative. -/
def Numeral (i : Int) (text : String) : Prop :=
  ∃ ds : List Char, text.toList = (if i < 0 then '-' :: ds else ds) ∧ placeValue ds = i.natAbs ∧
    ds ≠ [] ∧ (∀ d ∈ ds, d.isDigit = true) ∧ (ds.head? = some '0' → ds = ['0'])

/-- After blanks the text begins with the integer: a sign, if there is one, then as many digits as
there are, at least one. -/
def BeginsWith (i : Int) (text : String) : Prop :=
  ∃ blanks sign ds rest : List Char, text.toList = blanks ++ (sign ++ (ds ++ rest)) ∧
    (∀ c ∈ blanks, isBlank c = true) ∧ (sign = [] ∨ sign = ['+'] ∨ sign = ['-']) ∧
    ds ≠ [] ∧ (∀ d ∈ ds, d.isDigit = true) ∧ (∀ c ∈ rest.head?, c.isDigit = false) ∧
    i = if sign = ['-'] then -(placeValue ds : Int) else placeValue ds

theorem ofDigitChars_eq_placeValue (ds : List Char) :
    Nat.ofDigitChars 10 ds 0 = placeValue ds := by
  induction ds with
  | nil => rfl
  | cons d ds ih =>
    rw [Nat.ofDigitChars_cons, Nat.ofDigitChars_eq_ofDigitChars_zero, ih, placeValue, Nat.mul_zero,
      Nat.zero_add, Nat.mul_comm]

theorem digitsValue_eq_placeValue (ds : List Char) : digitsValue ds = placeValue ds := by
  rw [← ofDigitChars_eq_placeValue, Nat.ofDigitChars_eq_foldl]
  rfl

theorem head_toDigits {n : Nat} (h : 0 < n) : (Nat.toDigits 10 n).head? ≠ some '0' := by
  induction n using Nat.strongRecOn with
  | ind n ih =>
    rcases Nat.lt_or_ge n 10 with hlt | hge
    · have hdigits : ∀ k : Fin 10, 0 < k.val → Nat.digitChar k.val ≠ '0' := by decide
      rw [Nat.toDigits_of_lt_base hlt]
      simpa using hdigits ⟨n, hlt⟩ h
    · have hdiv : (Nat.toDigits 10 (n / 10)).head? ≠ some '0' := ih _ (by omega) (by omega)
      rw [Nat.toDigits_of_base_le (by decide) hge, List.head?_append]
      cases hhead : (Nat.toDigits 10 (n / 10)).head? with
      | none => exact absurd (List.head?_eq_none_iff.1 hhead) Nat.toDigits_ne_nil
      | some c =>
        rw [hhead] at hdiv
        exact hdiv

theorem toList_toString_int (i : Int) : (toString i).toList =
    if i < 0 then '-' :: Nat.toDigits 10 i.natAbs else Nat.toDigits 10 i.natAbs := by
  cases i with
  | ofNat n =>
    rw [if_neg (Int.not_lt.2 (Int.natCast_nonneg n) : ¬ Int.ofNat n < 0)]
    exact Nat.toList_repr
  | negSucc n =>
    rw [if_pos (Int.negSucc_lt_zero n)]
    change ("-" ++ Nat.repr (n + 1)).toList = _
    rw [String.toList_append, Nat.toList_repr]
    rfl

theorem numeral_toString (i : Int) : Numeral i (toString i) := by
  refine ⟨Nat.toDigits 10 i.natAbs, toList_toString_int i, ?_, Nat.toDigits_ne_nil,
    fun d => Nat.isDigit_of_mem_toDigits (by decide) (by decide), fun hzero => ?_⟩
  · rw [← ofDigitChars_eq_placeValue, Nat.ofDigitChars_ten_toDigits]
  · rcases Nat.eq_zero_or_pos i.natAbs with habs | habs
    · rw [habs, Nat.toDigits_zero]
    · exact absurd hzero (head_toDigits habs)

/-- A text is the numeral of one integer only: the minus is no digit. -/
theorem Numeral.unique {i j : Int} {text : String} (hi : Numeral i text) (hj : Numeral j text) :
    i = j := by
  obtain ⟨ds, hds, hvalue, -, hdigits, -⟩ := hi
  obtain ⟨es, hes, hotherValue, -, hotherDigits, -⟩ := hj
  have heq := hds.symm.trans hes
  split at heq
  · split at heq
    · obtain rfl := (List.cons.inj heq).2
      omega
    · subst heq
      exact absurd (hotherDigits '-' List.mem_cons_self) (by decide)
  · split at heq
    · subst heq
      exact absurd (hdigits '-' List.mem_cons_self) (by decide)
    · subst heq
      omega

theorem numeral_toString_iff (i j : Int) : Numeral i (toString j) ↔ i = j :=
  ⟨fun h => h.unique (numeral_toString j), fun h => h ▸ numeral_toString i⟩

/-- Nothing in front of the first digit but blanks and one sign. -/
theorem signed_of_sign {sign : List Char} (hsign : sign = [] ∨ sign = ['+'] ∨ sign = ['-'])
    {d : Char} (hd : d.isDigit = true) (s : List Char) :
    signed (sign ++ d :: s) = (decide (sign = ['-']), d :: s) := by
  rcases hsign with rfl | rfl | rfl
  · unfold signed
    split
    · rename_i heq
      cases heq
      cases hd
    · rename_i heq
      cases heq
      cases hd
    · rfl
  · rfl
  · rfl

theorem leadingInteger_of_beginsWith {i : Int} {text : String} (h : BeginsWith i text) :
    leadingInteger text = if int64Min ≤ i ∧ i ≤ int64Max then i else 0 := by
  obtain ⟨blanks, sign, ds, rest, htext, hblanks, hsign, hne, hdigits, hrest, hi⟩ := h
  obtain ⟨d, ds, rfl⟩ := List.exists_cons_of_ne_nil hne
  have hd := hdigits d List.mem_cons_self
  have hblank : isBlank d = false := of_isDigit (P := fun c => isBlank c = false) (by decide) hd
  have htrim : trimStart text.toList = sign ++ (d :: ds ++ rest) := by
    rw [htext, trimStart, List.dropWhile_append_of_pos hblanks]
    rcases hsign with rfl | rfl | rfl
    · exact List.dropWhile_cons_of_neg (by simp [hblank])
    · rfl
    · rfl
  have htake : (d :: ds ++ rest).takeWhile Char.isDigit = d :: ds := by
    rw [List.takeWhile_append_of_pos hdigits]
    cases rest with
    | nil => simp
    | cons c rest => rw [List.takeWhile_cons_of_neg (by simp [hrest c rfl]), List.append_nil]
  simp only [leadingInteger, htrim, List.cons_append, signed_of_sign hsign hd]
  rw [← List.cons_append, htake, digitsValue_eq_placeValue, hi]
  simp only [decide_eq_true_eq]

theorem div_le_roundDiv (n d : Nat) : n / d ≤ Binary64.roundDiv n d := by
  simp only [Binary64.roundDiv]
  split
  · exact Nat.le_succ _
  · exact Nat.le_refl _

/-- A natural of 64 bits with the highest one set is rounded to a number in which that bit is still
the least it can be. -/
theorem le_truncate_of_high {n : Nat} (hlow : 2 ^ 63 ≤ n) (hhigh : n < 2 ^ 64) :
    2 ^ 63 ≤ (Json.Number.natural n).toBinary64.truncate := by
  have hlog : n.log2 = 63 := (Nat.log2_eq_iff (by omega)).2 ⟨hlow, hhigh⟩
  have hexponent : Binary64.exponentOf n 1 = 11 := by
    have hfull : ¬ n / (1 * Nat.pow 2 10) < Nat.pow 2 53 := by
      rw [Nat.not_lt, Nat.le_div_iff_mul_le (by decide)]
      exact hlow
    simp only [Binary64.exponentOf, hlog]
    change max (-1074 : Int) (if n / (1 * Nat.pow 2 10) < Nat.pow 2 53 then 10 else 11) = 11
    rw [if_neg hfull]
    decide
  have hmantissa : 2 ^ 52 ≤ Binary64.roundDiv n (1 * Nat.pow 2 11) :=
    Nat.le_trans ((Nat.le_div_iff_mul_le (by decide)).2 hlow) (div_le_roundDiv ..)
  have hscaled : Binary64.scaledRatio n 1 11 = (n, 1 * Nat.pow 2 11) := rfl
  have hzero : n ≠ 0 := by omega
  simp only [Json.Number.toBinary64, Binary64.ofRatio, if_neg hzero, hexponent, hscaled]
  split
  · -- rounded up to the next power of two
    change (2 : Int) ^ 63 ≤ ((Nat.pow 2 52 * Nat.pow 2 12 / 1 : Nat) : Int)
    decide
  · generalize Binary64.roundDiv n (1 * Nat.pow 2 11) = m at hmantissa ⊢
    change (2 : Int) ^ 63 ≤ ((m * 2 ^ 11 / 1 : Nat) : Int)
    omega

theorem integerPart_of_fits {v : Int} (hv : v < 2 ^ 63) : integerPart (.ofInt v) = v := by
  rw [Json.Number.ofInt]
  split
  · rename_i hnat
    have hbound : v.toNat < Nat.pow 2 63 := by
      change v.toNat < 2 ^ 63
      omega
    simp only [integerPart, Json.Number.int64?, if_pos hbound, Option.getD_some]
    omega
  · simp only [integerPart, Json.Number.int64?, Option.getD_some]
    omega

theorem integerPart_of_high {v : Int} (hlow : 2 ^ 63 ≤ v) (hhigh : v < 2 ^ 64) :
    integerPart (.ofInt v) = int64Max := by
  have hnat : ¬ v.toNat < Nat.pow 2 63 := by
    change ¬ v.toNat < 2 ^ 63
    omega
  have hround := le_truncate_of_high (n := v.toNat) (by omega) (by omega)
  have hmax : int64Max = 2 ^ 63 - 1 := rfl
  have hmin : int64Min = -2 ^ 63 := rfl
  rw [Json.Number.ofInt, if_pos (by omega), integerPart, Json.Number.int64?, if_neg hnat,
    Option.getD_none]
  omega

/-- A default value of type integer keeps its value exactly when this fits into 64 bits with a sign.
Of a greater JSON integer the largest number that fits is kept, of a text nothing. -/
theorem integerDefaults_kept_iff (v : Int) :
    (-2 ^ 63 ≤ v → v < 2 ^ 64 →
      (Numeral v (literal (.int v) .integer) ↔ v < 2 ^ 63) ∧
      (2 ^ 63 ≤ v → Numeral (2 ^ 63 - 1) (literal (.int v) .integer))) ∧
    ∀ text : String, BeginsWith v text →
      (Numeral v (literal (.string text) .integer) ↔ -2 ^ 63 ≤ v ∧ v < 2 ^ 63) ∧
      (¬ (-2 ^ 63 ≤ v ∧ v < 2 ^ 63) → Numeral 0 (literal (.string text) .integer)) := by
  have hmax : int64Max = 2 ^ 63 - 1 := rfl
  have hmin : int64Min = -2 ^ 63 := rfl
  refine ⟨fun _ hhigh => ?_, fun text hbegins => ?_⟩
  · have hliteral : literal (.int v) .integer = toString (integerPart (.ofInt v)) := rfl
    rw [hliteral, numeral_toString_iff, numeral_toString_iff]
    rcases Int.lt_or_le v (2 ^ 63) with hfits | hlow
    · rw [integerPart_of_fits hfits]
      exact ⟨iff_of_true rfl hfits, fun hlow => by omega⟩
    · rw [integerPart_of_high hlow hhigh]
      exact ⟨iff_of_false (by omega) (by omega), fun _ => hmax.symm⟩
  · have hliteral : literal (.string text) .integer = toString (leadingInteger text) := rfl
    rw [hliteral, numeral_toString_iff, numeral_toString_iff, leadingInteger_of_beginsWith hbegins]
    split
    · rename_i hfits
      exact ⟨iff_of_true rfl (by omega), fun hout => by omega⟩
    · rename_i hout
      exact ⟨iff_of_false (by omega) (by omega), fun _ => rfl⟩

/-- Blanks, a plus and zeros in front, and the numbers at the edge of 64 bits. -/
theorem edge_defaults_kept :
    Numeral (-2 ^ 63) (literal (.int (-2 ^ 63)) .integer) ∧
    BeginsWith (2 ^ 63 - 1) "  +009223372036854775807.5 kg" ∧
    Numeral (2 ^ 63 - 1) (literal (.string "  +009223372036854775807.5 kg") .integer) := by
  obtain ⟨hnumber, -⟩ := integerDefaults_kept_iff (-2 ^ 63)
  obtain ⟨-, htext⟩ := integerDefaults_kept_iff (2 ^ 63 - 1)
  have hbegins : BeginsWith (2 ^ 63 - 1) "  +009223372036854775807.5 kg" :=
    ⟨[' ', ' '], ['+'], "009223372036854775807".toList, ['.', '5', ' ', 'k', 'g'],
      by decide +kernel, List.all_eq_true.1 (by decide), Or.inr (Or.inl rfl), by decide +kernel,
      List.all_eq_true.1 (by decide +kernel), fun c hc => by cases hc; rfl, by decide +kernel⟩
  exact ⟨(hnumber (by decide) (by decide)).1.2 (by decide), hbegins,
    (htext _ hbegins).1.2 (by decide)⟩

/-- The largest JSON integer becomes another number, and a text of more digits becomes zero. -/
theorem large_defaults_lost :
    literal (.int 18446744073709551615) .integer = "9223372036854775807" ∧
    ¬ Numeral 18446744073709551615 (literal (.int 18446744073709551615) .integer) ∧
    BeginsWith 9223372036854775808 "9223372036854775808" ∧
    literal (.string "9223372036854775808") .integer = "0" ∧
    ¬ Numeral 9223372036854775808 (literal (.string "9223372036854775808") .integer) := by
  have hnumber : literal (.int 18446744073709551615) .integer =
      toString (9223372036854775807 : Int) := by decide +kernel
  have htext : literal (.string "9223372036854775808") .integer = toString (0 : Int) := by
    decide +kernel
  rw [hnumber, htext, numeral_toString_iff, numeral_toString_iff]
  refine ⟨by decide +kernel, by decide, ?_, by decide +kernel, by decide⟩
  exact ⟨[], [], "9223372036854775808".toList, [], by decide +kernel, by simp, Or.inl rfl,
    by decide +kernel, List.all_eq_true.1 (by decide +kernel), by simp, by decide +kernel⟩

end ExecutableUml.Python
