import Mathlib.Data.String.Basic

/-! Texts are in the order of their bytes: a text is less than another one just if its encoding is
less, byte by byte. For the codes of characters this is shown along their construction. A lead byte
tells how many bytes follow, codes of more bytes have greater lead bytes, and every byte behind the
lead byte holds six more bits. -/

namespace ExecutableUml.Text

def bytes (s : String) : List UInt8 := s.toByteArray.data.toList

theorem bytes_eq (s : String) : bytes s = s.toList.flatMap String.utf8EncodeChar := by
  have hencode : s.toByteArray = s.toList.utf8Encode := by
    rw [← String.toByteArray_ofList, String.ofList_toList]
  rw [bytes, hencode, List.utf8Encode, List.data_toByteArray]

/-- The first bytes are less than the second ones, whatever follows behind each of them. -/
def Precedes (a b : List UInt8) : Prop := ∀ x y, a ++ x < b ++ y

theorem Precedes.of_head {m n : Nat} (h : m < n) (hn : n < 256) (a b : List UInt8) :
    Precedes (UInt8.ofNat m :: a) (UInt8.ofNat n :: b) := by
  intro x y
  have hbytes : UInt8.ofNat m < UInt8.ofNat n := by
    rw [UInt8.lt_iff_toNat_lt, UInt8.toNat_ofNat_of_lt' (h.trans hn), UInt8.toNat_ofNat_of_lt' hn]
    exact h
  exact List.cons_lt_cons_iff.2 (.inl hbytes)

theorem Precedes.append {a b : List UInt8} (h : Precedes a b) (u v : List UInt8) :
    Precedes (a ++ u) (b ++ v) := by
  intro x y
  rw [List.append_assoc, List.append_assoc]
  exact h (u ++ x) (v ++ y)

theorem Precedes.append_left {a b : List UInt8} (h : Precedes a b) (u : List UInt8) :
    Precedes (u ++ a) (u ++ b) := by
  intro x y
  rw [List.append_assoc, List.append_assoc]
  exact List.append_left_lt (h x y)

/-- A code for the numbers below a bound: it starts with a byte between the marks, and greater
numbers have greater codes. -/
structure IsCode (bound low high : Nat) (code : Nat → List UInt8) : Prop where
  head : ∀ v < bound, ∃ k rest, code v = UInt8.ofNat k :: rest ∧ low ≤ k ∧ k < high
  increasing : ∀ m n, m < n → n < bound → Precedes (code m) (code n)

/-- A lead byte has the highest bits above its mark. -/
def leadByte (range mark : Nat) (v : Nat) : List UInt8 := [UInt8.ofNat (v % range + mark)]

def withTrail (code : Nat → List UInt8) (v : Nat) : List UInt8 :=
  code (v / 64) ++ [UInt8.ofNat (v % 64 + 128)]

theorem IsCode.leadByte (range mark : Nat) (h : mark + range ≤ 256) :
    IsCode range mark (mark + range) (leadByte range mark) where
  head v hv := ⟨v % range + mark, [], rfl, by omega, by rw [Nat.mod_eq_of_lt hv]; omega⟩
  increasing m n hmn hn := by
    rw [Text.leadByte, Text.leadByte, Nat.mod_eq_of_lt hn, Nat.mod_eq_of_lt (hmn.trans hn)]
    exact .of_head (by omega) (by omega) [] []

theorem IsCode.withTrail {bound low high : Nat} {code : Nat → List UInt8}
    (h : IsCode bound low high code) : IsCode (bound * 64) low high (withTrail code) where
  head v hv := by
    obtain ⟨k, rest, hcode, hk⟩ := h.head (v / 64) (by omega)
    refine ⟨k, rest ++ [UInt8.ofNat (v % 64 + 128)], ?_, hk⟩
    rw [Text.withTrail, hcode, List.cons_append]
  increasing m n hmn hn := by
    have hbits : m / 64 < n / 64 ∨ m / 64 = n / 64 ∧ m % 64 < n % 64 := by omega
    rcases hbits with hless | ⟨hsame, hless⟩
    · exact (h.increasing _ _ hless (by omega)).append _ _
    · rw [Text.withTrail, Text.withTrail, hsame]
      exact (Precedes.of_head (by omega) (by omega) [] []).append_left _

/-- A code for small numbers and one with greater lead bytes for the others. -/
theorem IsCode.orElse {last bound low middle middle' high : Nat} {small large : Nat → List UInt8}
    (hsmall : IsCode (last + 1) low middle small) (hlarge : IsCode bound middle' high large)
    (hlow : low ≤ middle') (hmiddle : middle ≤ middle') (hhigh : middle ≤ high) (h : high ≤ 256) :
    IsCode bound low high fun v => if v ≤ last then small v else large v where
  head v hv := by
    split
    · obtain ⟨k, rest, hcode, hk⟩ := hsmall.head v (by omega)
      exact ⟨k, rest, hcode, by omega⟩
    · obtain ⟨k, rest, hcode, hk⟩ := hlarge.head v hv
      exact ⟨k, rest, hcode, by omega⟩
  increasing m n hmn hn := by
    by_cases hn' : n ≤ last
    · rw [if_pos hn', if_pos (by omega)]
      exact hsmall.increasing m n hmn (by omega)
    · rw [if_neg hn']
      split
      · obtain ⟨k, rest, hm, hk⟩ := hsmall.head m (by omega)
        obtain ⟨k', rest', hn, hk'⟩ := hlarge.head n hn
        rw [hm, hn]
        exact .of_head (by omega) (by omega) rest rest'
      · exact hlarge.increasing m n hmn hn

def charCode (v : Nat) : List UInt8 :=
  if v ≤ 127 then leadByte 128 0 v
  else if v ≤ 2047 then withTrail (leadByte 32 192) v
  else if v ≤ 65535 then withTrail (withTrail (leadByte 16 224)) v
  else withTrail (withTrail (withTrail (leadByte 8 240))) v

theorem utf8EncodeChar_eq (c : Char) : String.utf8EncodeChar c = charCode c.val.toNat := by
  unfold String.utf8EncodeChar charCode
  simp only [withTrail, leadByte, Nat.div_div_eq_div_mul, List.cons_append, List.nil_append]
  split
  · rename_i h
    rw [Nat.mod_eq_of_lt (by omega), Nat.add_zero]
  · rfl

theorem charCode_isCode : IsCode 2097152 0 248 charCode := by
  have hone : IsCode 128 0 128 (leadByte 128 0) := .leadByte 128 0 (by omega)
  have htwo : IsCode 2048 192 224 (withTrail (leadByte 32 192)) :=
    (IsCode.leadByte 32 192 (by omega)).withTrail
  have hthree : IsCode 65536 224 240 (withTrail (withTrail (leadByte 16 224))) :=
    (IsCode.leadByte 16 224 (by omega)).withTrail.withTrail
  have hfour : IsCode 2097152 240 248 (withTrail (withTrail (withTrail (leadByte 8 240)))) :=
    (IsCode.leadByte 8 240 (by omega)).withTrail.withTrail.withTrail
  have hlong := hthree.orElse hfour (by omega) (by omega) (by omega) (by omega)
  have hlonger := htwo.orElse hlong (by omega) (by omega) (by omega) (by omega)
  exact hone.orElse hlonger (by omega) (by omega) (by omega) (by omega)

theorem utf8EncodeChar_precedes {c d : Char} (h : c < d) :
    Precedes (String.utf8EncodeChar c) (String.utf8EncodeChar d) := by
  have hlimit : d.val.toNat < 2097152 := by
    rcases d.valid with hd | hd <;> omega
  rw [utf8EncodeChar_eq, utf8EncodeChar_eq]
  exact charCode_isCode.increasing _ _ h hlimit

theorem bytes_lt_of_lt {s t : String} (h : s < t) : bytes s < bytes t := by
  rw [bytes_eq, bytes_eq]
  rw [String.lt_iff_toList_lt] at h
  generalize s.toList = a at h
  generalize t.toList = b at h
  induction a generalizing b with
  | nil =>
    cases b with
    | nil => exact absurd h (List.lt_irrefl _)
    | cons d b =>
      obtain ⟨first, rest, hcode⟩ :=
        List.exists_cons_of_ne_nil (String.utf8EncodeChar_ne_nil (c := d))
      rw [List.flatMap_cons, hcode]
      exact List.nil_lt_cons _ _
  | cons c a ih =>
    cases b with
    | nil => exact absurd h (List.not_lt_nil _)
    | cons d b =>
      rw [List.flatMap_cons, List.flatMap_cons]
      rcases List.cons_lt_cons_iff.1 h with hcd | ⟨rfl, hab⟩
      · exact utf8EncodeChar_precedes hcd _ _
      · exact List.append_left_lt (ih b hab)

/-- The order of texts is the order of their bytes. -/
theorem bytes_le_iff {s t : String} : bytes s ≤ bytes t ↔ s ≤ t := by
  constructor
  · intro h
    exact not_lt.1 fun hts => h (bytes_lt_of_lt hts)
  · intro h
    rcases lt_or_eq_of_le h with hst | rfl
    · exact List.le_of_lt (bytes_lt_of_lt hst)
    · exact List.le_refl _

end ExecutableUml.Text
