import ExecutableUml.Document.Fields

/-! A text read from a document is never empty: a blank field counts as absent, and a number or a
truth value has a text of its own. Lower case keeps it so. -/

namespace ExecutableUml

namespace Text

theorem expand_ne_nil {expansions : List (Nat × List Nat)} (h : ∀ e ∈ expansions, e.2 ≠ [])
    (shifts : List Shift) (c : Char) : expand expansions shifts c ≠ [] := by
  unfold expand
  split
  · rename_i e he
    have := h e (List.mem_of_find?_eq_some he)
    simpa using this
  · split <;> simp

theorem lowerChar_ne_nil (c : Char) : lowerChar c ≠ [] := by
  unfold lowerChar
  split
  · simp
  · exact expand_ne_nil (by simp [lowerExpansions]) _ _

theorem lowerFrom_eq_nil {before s : List Char} : lowerFrom before s = [] ↔ s = [] := by
  cases s with
  | nil => simp [lowerFrom]
  | cons c rest =>
    have := lowerChar_ne_nil c
    rw [lowerFrom]
    split <;> simp_all

theorem lower_eq_empty {s : String} : lower s = "" ↔ s = "" := by
  rw [lower, String.ofList_eq_empty_iff, lowerFrom_eq_nil, String.toList_eq_nil_iff]

end Text

open Text

namespace Decimal.Scientific

theorem positional_ne_empty (s : Scientific) : s.positional ≠ "" := by
  unfold positional
  split
  · simp
  · simp only
    split <;> simp

theorem exponential_ne_empty (s : Scientific) : s.exponential ≠ "" := by
  simp [exponential]

end Decimal.Scientific

theorem Json.Number.text_ne_empty (n : Json.Number) : n.text ≠ "" := by
  cases n with
  | natural n => exact Nat.repr_ne_empty
  | negative n => simp [Json.Number.text]
  | real x =>
    have hp := (Decimal.Scientific.shortest .toEven x).positional_ne_empty
    have he := (Decimal.Scientific.shortest .toEven x).exponential_ne_empty
    simp only [Json.Number.text, Json.realText]
    split
    · simp
    · split
      · simp [hp]
      · simp [he]

namespace Document

theorem scalarText_ne_empty {v : Json} {t : String} (h : scalarText v = some t) : t ≠ "" := by
  cases v with
  | string s =>
    rw [scalarText] at h
    split at h
    · cases h
    · rename_i hs
      cases h
      simpa using hs
  | number n => cases h; exact n.text_ne_empty
  | bool b => cases b <;> cases h <;> decide
  | null => cases h
  | array items => cases h
  | object fields => cases h

theorem text_ne_empty {entry : Json} {keys : List String} {t : String}
    (h : text entry keys = some t) : t ≠ "" := by
  obtain ⟨v, -, hv⟩ := List.exists_of_findSome?_eq_some h
  exact scalarText_ne_empty hv

end Document

end ExecutableUml
