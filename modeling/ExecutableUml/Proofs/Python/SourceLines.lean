import ExecutableUml.Proofs.Python.QuotedText
import ExecutableUml.Proofs.Python.WellFormedNames
import ExecutableUml.Python.Module

/-! The lines of a module as they are read from its text. What a module writes as one line is one
unless a text that it shows as it is has a line end in it. -/

namespace ExecutableUml.Python

open Text Decimal

def sourceLines (text : String) : List String :=
  (splitAtChar '\n' (newlines text.toList)).map String.ofList

def OneLine (s : String) : Prop := '\n' ∉ s.toList ∧ '\r' ∉ s.toList

instance (s : String) : Decidable (OneLine s) := inferInstanceAs (Decidable (_ ∧ _))

section Lines

theorem sourceLines_append {line : String} (h : OneLine line) (rest : String) :
    sourceLines (line ++ "\n" ++ rest) = line :: sourceLines rest := by
  have hend : "\n".toList = ['\n'] := rfl
  rw [sourceLines, String.toList_append, String.toList_append, hend, List.append_assoc,
    List.singleton_append, newlines_append_of_no_return h.2, newlines_cons (by decide),
    splitAtChar_append, splitAtChar_of_not_mem h.1]
  simp [sourceLines]

/-- A module whose texts end no lines is read back line by line. -/
theorem Module.sourceLines_text {m : Module} (h : ∀ line ∈ m.lines, OneLine line) :
    sourceLines m.text = m.lines ++ [""] := by
  obtain ⟨lines, notes⟩ := m
  induction lines with
  | nil => rfl
  | cons line lines ih =>
    rw [List.forall_mem_cons] at h
    have hrest : sourceLines (String.join (lines.map (· ++ "\n"))) = lines ++ [""] := ih h.2
    rw [Module.text, List.map_cons, String.join_cons, sourceLines_append h.1, hrest]
    rfl

end Lines

section OneLine

variable {s t : String}

theorem oneLine_append_iff : OneLine (s ++ t) ↔ OneLine s ∧ OneLine t := by
  simp only [OneLine, String.toList_append, List.mem_append, not_or]
  exact and_and_and_comm

theorem OneLine.append (hs : OneLine s) (ht : OneLine t) : OneLine (s ++ t) :=
  oneLine_append_iff.2 ⟨hs, ht⟩

theorem oneLine_of_forall {P : Char → Prop} (h : ∀ c ∈ s.toList, P c) (hfeed : ¬ P '\n')
    (hreturn : ¬ P '\r') : OneLine s :=
  ⟨fun hmem => hfeed (h _ hmem), fun hmem => hreturn (h _ hmem)⟩

theorem oneLine_ofList {l : List Char} (h : (l.all fun c => c != '\n' && c != '\r') = true) :
    OneLine (String.ofList l) := by
  refine oneLine_of_forall (P := fun c => (c != '\n' && c != '\r') = true) ?_ (by decide)
    (by decide)
  rw [String.toList_ofList]
  exact List.all_eq_true.1 h

theorem oneLine_of_printed (h : ∀ c ∈ s.toList, 0x20 ≤ c.toNat) : OneLine s :=
  oneLine_of_forall h (by decide) (by decide)

theorem oneLine_of_wordChars (h : ∀ c ∈ s.toList, isWordChar c = true) : OneLine s :=
  oneLine_of_forall h (by decide) (by decide)

theorem oneLine_stringLiteral (t : String) : OneLine (stringLiteral t) :=
  oneLine_of_printed fun _ => le_of_mem_stringLiteral

theorem oneLine_joinWith {sep : String} {texts : List String} (hsep : OneLine sep)
    (h : ∀ s ∈ texts, OneLine s) : OneLine (joinWith sep texts) := by
  fun_induction joinWith sep texts with
  | case1 => decide
  | case2 s => exact h s List.mem_cons_self
  | case3 s rest _ ih =>
    rw [List.forall_mem_cons] at h
    exact (h.1.append hsep).append (ih h.2)

end OneLine

def IsAscii (s : String) : Prop := ∀ c ∈ s.toList, c.toNat < 0x80

instance (s : String) : Decidable (IsAscii s) := List.decidableBAll _ s.toList

theorem IsAscii.append {s t : String} (hs : IsAscii s) (ht : IsAscii t) : IsAscii (s ++ t) := by
  rw [IsAscii, String.toList_append]
  exact List.forall_mem_append.2 ⟨hs, ht⟩

section Values

theorem oneLine_digits {l : List Char} (h : ∀ c ∈ l, c.isDigit = true) :
    OneLine (String.ofList l) := by
  refine oneLine_of_forall (P := fun c => c.isDigit = true) ?_ (by decide) (by decide)
  rwa [String.toList_ofList]

theorem isDigit_toDigits (n : Nat) : ∀ c ∈ Nat.toDigits 10 n, c.isDigit = true := fun _ hc =>
  Nat.isDigit_of_mem_toDigits (by decide) (by decide) hc

theorem oneLine_nat (n : Nat) : OneLine (toString n) :=
  oneLine_of_wordChars (isWordChar_toString n)

theorem oneLine_int (i : Int) : OneLine (toString i) := by
  cases i with
  | ofNat n => exact oneLine_nat n
  | negSucc n => exact OneLine.append (s := "-") (by decide) (oneLine_nat (n + 1))

theorem oneLine_zeros (n : Nat) : OneLine (Scientific.zeros n) :=
  oneLine_digits fun _ hc => by rw [List.eq_of_mem_replicate hc]; decide

theorem oneLine_sign (negative : Bool) : OneLine (if negative then "-" else "") := by
  cases negative <;> decide

theorem oneLine_positional (s : Scientific) : OneLine s.positional := by
  have hdigits := isDigit_toDigits s.digits
  have htake : ∀ k, OneLine (String.ofList ((Nat.toDigits 10 s.digits).take k)) := fun k =>
    oneLine_digits fun c hc => hdigits c (List.mem_of_mem_take hc)
  have hdrop : ∀ k, OneLine (String.ofList ((Nat.toDigits 10 s.digits).drop k)) := fun k =>
    oneLine_digits fun c hc => hdigits c (List.mem_of_mem_drop hc)
  rw [Scientific.positional]
  split
  · exact (oneLine_digits hdigits).append (oneLine_zeros _)
  · simp only
    split
    · exact ((htake _).append (by decide)).append (hdrop _)
    · exact (OneLine.append (by decide) (oneLine_zeros _)).append (oneLine_digits hdigits)

theorem oneLine_exponential (s : Scientific) : OneLine s.exponential := by
  have hdigits := isDigit_toDigits s.digits
  rw [Scientific.exponential]
  refine ((OneLine.append (OneLine.append ?_ ?_) (by decide)).append ?_).append (oneLine_nat _)
  · exact oneLine_digits fun c hc => hdigits c (List.mem_of_mem_take hc)
  · split
    · decide
    · exact OneLine.append (by decide)
        (oneLine_digits fun c hc => hdigits c (List.mem_of_mem_drop hc))
  · split <;> decide

theorem oneLine_floatLiteral (x : Option Binary64) : OneLine (floatLiteral x) := by
  rw [floatLiteral.eq_def]
  split
  · split
    · exact ((oneLine_sign _).append (oneLine_nat _)).append (by decide)
    · exact (oneLine_sign _).append (oneLine_positional _)
  · decide

theorem oneLine_numberText (n : Json.Number) : OneLine n.text := by
  cases n with
  | natural n => exact oneLine_nat n
  | negative n => exact OneLine.append (by decide) (oneLine_nat n)
  | real x =>
    rw [Json.Number.text, Json.realText]
    split
    · exact (oneLine_sign _).append (by decide)
    · split
      · refine ((oneLine_sign _).append (oneLine_positional _)).append ?_
        split <;> decide
      · exact (oneLine_sign _).append (oneLine_exponential _)

theorem oneLine_boolLiteral (b : Bool) : OneLine (boolLiteral b) := by
  cases b <;> decide

theorem oneLine_textLiteral (value : Json) : OneLine (textLiteral value) := by
  rw [textLiteral.eq_def]
  split <;> exact oneLine_stringLiteral _

theorem oneLine_integerLiteral (value : Json) : OneLine (integerLiteral value) := by
  rw [integerLiteral.eq_def]
  split
  · exact oneLine_int _
  · exact oneLine_int _
  · split <;> decide
  · decide

theorem oneLine_realLiteral (value : Json) : OneLine (realLiteral value) := by
  rw [realLiteral.eq_def]
  split
  · exact oneLine_floatLiteral _
  · exact oneLine_floatLiteral _
  · decide

theorem oneLine_plainLiteral (value : Json) : OneLine (plainLiteral value) := by
  rw [plainLiteral.eq_def]
  split
  · exact oneLine_numberText _
  · exact oneLine_boolLiteral _
  · exact oneLine_textLiteral _

theorem oneLine_literal (value : Json) (type : DataType) : OneLine (literal value type) := by
  rw [literal.eq_def]
  split
  · decide
  · split
    · exact oneLine_boolLiteral _
    · exact oneLine_integerLiteral value
    · exact oneLine_realLiteral value
    · exact oneLine_textLiteral value
    · exact oneLine_textLiteral value
    · exact oneLine_textLiteral value
    · decide
    · decide
    · exact oneLine_plainLiteral value

/-- Whatever default an attribute has, its first value is written in one line. -/
theorem oneLine_initializer (a : Attribute) : OneLine a.initializer := by
  have hinitial : OneLine a.type.initial := by
    rw [DataType.initial.eq_def]
    split <;> decide
  rw [Attribute.initializer]
  split
  · split
    · exact hinitial
    · exact oneLine_literal _ _
  · exact hinitial

end Values

end ExecutableUml.Python
