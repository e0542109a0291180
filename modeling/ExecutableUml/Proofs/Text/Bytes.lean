import ExecutableUml.Text.Span

/-! Byte ranges and the characters that they hold. A range between two parts of a text holds just
what stands between them. -/

namespace ExecutableUml.Text

theorem byteLength_cons (c : Char) (s : List Char) :
    byteLength (c :: s) = c.utf8Size + byteLength s :=
  rfl

theorem byteLength_append (a b : List Char) : byteLength (a ++ b) = byteLength a + byteLength b := by
  induction a with
  | nil => exact (Nat.zero_add _).symm
  | cons c a ih => rw [List.cons_append, byteLength_cons, byteLength_cons, ih, Nat.add_assoc]

theorem byteLength_pos {s : List Char} (h : s ≠ []) : 0 < byteLength s := by
  cases s with
  | nil => exact absurd rfl h
  | cons c s =>
    have hc := c.utf8Size_pos
    rw [byteLength_cons]
    omega

theorem utf8ByteSize_ofList (s : List Char) : (String.ofList s).utf8ByteSize = byteLength s := by
  induction s with
  | nil => rfl
  | cons c s ih =>
    rw [String.ofList_cons, String.utf8ByteSize_append, ih, String.utf8ByteSize_singleton]
    rfl

theorem byteLength_toList (line : String) : byteLength line.toList = line.utf8ByteSize := by
  rw [← utf8ByteSize_ofList, String.ofList_toList]

theorem dropBytes_append (a b : List Char) : dropBytes (byteLength a) (a ++ b) = some b := by
  induction a with
  | nil => rw [List.nil_append, byteLength, List.foldr_nil, dropBytes]
  | cons c a ih =>
    obtain ⟨n, hn⟩ := Nat.exists_eq_add_one_of_ne_zero
      (Nat.ne_of_gt (Nat.lt_add_right (byteLength a) c.utf8Size_pos))
    rw [byteLength_cons, hn, List.cons_append, dropBytes, if_pos (by omega), ← hn,
      Nat.add_sub_cancel_left, ih]

theorem takeBytes_append (a b : List Char) : takeBytes (byteLength a) (a ++ b) = some a := by
  induction a with
  | nil => rw [List.nil_append, byteLength, List.foldr_nil, takeBytes]
  | cons c a ih =>
    obtain ⟨n, hn⟩ := Nat.exists_eq_add_one_of_ne_zero
      (Nat.ne_of_gt (Nat.lt_add_right (byteLength a) c.utf8Size_pos))
    rw [byteLength_cons, hn, List.cons_append, takeBytes, if_pos (by omega), ← hn,
      Nat.add_sub_cancel_left, ih]
    rfl

/-- The range behind `a`, as long as `b`. -/
theorem slice_between (a b c : List Char) :
    (Span.mk (byteLength a) (byteLength a + byteLength b)).slice (a ++ (b ++ c)) = b := by
  rw [Span.slice, if_pos (Nat.le_add_right _ _), dropBytes_append, Option.bind_some,
    Nat.add_sub_cancel_left, takeBytes_append]
  rfl

/-- The end of a first part of a text is a boundary between its characters. -/
theorem isValid_byteLength {line : String} {a b : List Char} (h : line.toList = a ++ b) :
    String.Pos.Raw.IsValid line ⟨byteLength a⟩ := by
  refine String.Pos.Raw.isValid_iff_exists_append.2 ⟨String.ofList a, String.ofList b, ?_, ?_⟩
  · rw [← String.ofList_toList (s := line), h, String.ofList_append]
  · rw [← utf8ByteSize_ofList]
    rfl

end ExecutableUml.Text
