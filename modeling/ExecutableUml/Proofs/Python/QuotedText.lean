import ExecutableUml.Proofs.Python.LiteralReader
import Mathlib.Logic.Function.Basic
import Mathlib.Tactic.SplitIfs

/-! A text written as a literal is read back as that text. Every character is written as itself or
as an escape that denotes it, so the literal goes up to its last character, on one line, and no
other quote in it closes it. -/

namespace ExecutableUml.Python

open Text

variable {named : String → Option Char}

/-- The character stands at the place, and the backslashes in front of it do not escape it. -/
def UnescapedAt (c : Char) (s : List Char) (i : Nat) : Prop :=
  s[i]? = some c ∧ endRun '\\' (s.take i) % 2 = 0

/-- Inside a short literal every quote has an odd number of backslashes in front, and the closing
one has an even number. -/
theorem QuoteMark.inside_quotes {m : QuoteMark} (hshort : m.long = false) {escaped : Bool}
    (before : List Char) {s raw rest : List Char}
    (hstate : escaped = true ↔ endRun '\\' before % 2 = 1)
    (h : m.inside escaped s = some (raw, rest)) :
    (∀ a b, raw = a ++ m.quote :: b → endRun '\\' (before ++ a) % 2 = 1) ∧
      endRun '\\' (before ++ raw) % 2 = 0 := by
  induction s generalizing escaped before raw with
  | nil => cases h
  | cons c s ih =>
    have hrun := endRun_concat '\\' c before
    -- the step, whatever the reader's state is behind the character
    have hstep : ∀ {after : Bool} {raw' : List Char}, raw = c :: raw' →
        m.inside after s = some (raw', rest) →
        (after = true ↔ endRun '\\' (before ++ [c]) % 2 = 1) →
        (c = m.quote → endRun '\\' before % 2 = 1) →
        (∀ a b, raw = a ++ m.quote :: b → endRun '\\' (before ++ a) % 2 = 1) ∧
          endRun '\\' (before ++ raw) % 2 = 0 := by
      rintro after raw' rfl hr hafter hquote
      obtain ⟨hquotes, hend⟩ := ih _ hafter hr
      refine ⟨fun a b hab => ?_, by simpa using hend⟩
      cases a with
      | nil => simpa using hquote (List.cons.inj hab).1
      | cons d a =>
        obtain ⟨rfl, htail⟩ := List.cons.inj hab
        simpa using hquotes a b htail
    cases escaped with
    | true =>
      rw [inside_escaped] at h
      obtain ⟨r, hr, heq⟩ := Option.map_eq_some_iff.1 h
      cases heq
      have hodd : endRun '\\' before % 2 = 1 := hstate.1 rfl
      refine hstep rfl hr ?_ fun _ => hodd
      rw [hrun]
      split
      · simp; omega
      · simp
    | false =>
      have heven : ¬ endRun '\\' before % 2 = 1 := fun h => by simpa using hstate.2 h
      rcases inside_cases h with ⟨rfl, -⟩ | ⟨hopen, -, raw', rfl, hr⟩
      · simp
        omega
      · refine hstep rfl hr ?_ fun hquote => absurd ?_ hopen
        · rw [hrun]
          split
          · rename_i hc
            simp [hc]
            omega
          · rename_i hc
            simp [hc]
        · rw [text, if_neg (by simp [hshort]), hquote]
          exact List.prefix_append [m.quote] s

/-- In a short literal that is read to its end, only the first and the last quote are unescaped. -/
theorem unescapedAt_iff {m : QuoteMark} (hshort : m.long = false) (hquote : m.quote ≠ '\\')
    {s raw : List Char} (h : m.inside false s = some (raw, [])) (i : Nat) :
    UnescapedAt m.quote (m.quote :: s) i ↔ i = 0 ∨ i + 1 = (m.quote :: s).length := by
  have hstart : endRun '\\' [m.quote] % 2 = 0 := by
    simpa [hquote] using congrArg (· % 2) (endRun_concat '\\' m.quote [])
  obtain ⟨hquotes, hend⟩ := QuoteMark.inside_quotes hshort [m.quote] (by simp [hstart]) h
  have hs : s = raw ++ [m.quote] := by
    simpa [QuoteMark.text, hshort] using QuoteMark.inside_eq_some h
  subst hs
  constructor
  · rintro ⟨hi, heven⟩
    cases i with
    | zero => exact Or.inl rfl
    | succ i =>
      rw [List.getElem?_cons_succ] at hi
      rw [List.take_succ_cons] at heven
      rcases Nat.lt_or_ge i raw.length with hlt | hge
      · rw [List.getElem?_append_left hlt] at hi
        rw [List.take_append_of_le_length (Nat.le_of_lt hlt)] at heven
        have hat := (List.getElem?_eq_some_iff.1 hi).2
        have hsplit : raw = raw.take i ++ m.quote :: raw.drop (i + 1) := calc
          raw = raw.take i ++ raw.drop i := (List.take_append_drop i raw).symm
          _ = raw.take i ++ m.quote :: raw.drop (i + 1) := by
            rw [List.drop_eq_getElem_cons hlt, hat]
        have hodd := hquotes _ _ hsplit
        rw [List.singleton_append] at hodd
        omega
      · have hbound := (List.getElem?_eq_some_iff.1 hi).1
        simp only [List.length_cons, List.length_append, List.length_nil] at hbound ⊢
        omega
  · rintro (rfl | hi)
    · exact ⟨rfl, rfl⟩
    · simp only [List.length_cons, List.length_append, List.length_nil] at hi
      obtain rfl : i = raw.length + 1 := by omega
      refine ⟨by simp, ?_⟩
      simpa using hend

def controlDigits (n : Nat) : List Char := [Nat.digitChar (n / 16), Nat.digitChar (n % 16)]

theorem hexPad_control {n : Nat} (h : n < 0x20) : Json.hexPad 2 n = controlDigits n := by
  have hall : ∀ k : Fin 0x20, Json.hexPad 2 k.val = controlDigits k.val := by decide
  exact hall ⟨n, h⟩

theorem hexEscape_control {n : Nat} (h : n < 0x20) (s : List Char) :
    hexEscape 2 (controlDigits n ++ s) = some ([Char.ofNat n], s) := by
  have hdigits : ∀ k : Fin 0x20,
      (controlDigits k.val).mapM Json.hexValue = some [k.val / 16, k.val % 16] := by decide
  have hchar : ∀ k : Fin 0x20,
      character? (16 * (16 * 0 + k.val / 16) + k.val % 16) = some (Char.ofNat k.val) := by decide
  have htake : (controlDigits n ++ s).take 2 = controlDigits n := rfl
  have hdrop : (controlDigits n ++ s).drop 2 = s := rfl
  rw [hexEscape, if_neg (by simp [controlDigits]), htake, hdrop, hdigits ⟨n, h⟩]
  exact Option.bind_eq_some_iff.2 ⟨_, rfl, Option.bind_eq_some_iff.2 ⟨_, hchar ⟨n, h⟩, rfl⟩⟩

/-- Characters that stand for themselves in a literal that is written. -/
def IsVerbatim (c : Char) : Prop := c ≠ '"' ∧ c ≠ '\\' ∧ 0x20 ≤ c.toNat

instance (c : Char) : Decidable (IsVerbatim c) := inferInstanceAs (Decidable (_ ∧ _ ∧ _))

/-- How a character is written: as itself, as an escape of one character, or by its digits. -/
theorem escapeChar_cases (c : Char) :
    escapeChar c = [c] ∧ IsVerbatim c ∨
      (∃ d, escapeChar c = ['\\', d] ∧ simpleEscapes.lookup d = some [c] ∧ 0x20 ≤ d.toNat) ∨
      escapeChar c = '\\' :: 'x' :: controlDigits c.toNat ∧ c.toNat < 0x20 := by
  unfold escapeChar
  split_ifs with hquote hbackslash hnewline hreturn htab hcontrol
  · exact Or.inr (Or.inl ⟨'"', rfl, by rw [hquote]; rfl, by decide⟩)
  · exact Or.inr (Or.inl ⟨'\\', rfl, by rw [hbackslash]; rfl, by decide⟩)
  · exact Or.inr (Or.inl ⟨'n', rfl, by rw [hnewline]; rfl, by decide⟩)
  · exact Or.inr (Or.inl ⟨'r', rfl, by rw [hreturn]; rfl, by decide⟩)
  · exact Or.inr (Or.inl ⟨'t', rfl, by rw [htab]; rfl, by decide⟩)
  · exact Or.inr (Or.inr ⟨by rw [hexPad_control hcontrol], hcontrol⟩)
  · exact Or.inl ⟨rfl, hquote, hbackslash, Nat.le_of_not_lt hcontrol⟩

def doubleQuote : QuoteMark := ⟨'"', false⟩

theorem inside_plain {cs : List Char} (h : ∀ c ∈ cs, IsVerbatim c) (s : List Char) :
    doubleQuote.inside false (cs ++ s) =
      (doubleQuote.inside false s).map fun r => (cs ++ r.1, r.2) := by
  induction cs with
  | nil => simp
  | cons c cs ih =>
    obtain ⟨⟨hquote, hbackslash, hcontrol⟩, hcs⟩ := List.forall_mem_cons.1 h
    have hline : c ≠ '\n' := fun h => by simp [h] at hcontrol
    rw [List.cons_append,
      QuoteMark.inside_cons (QuoteMark.not_text_isPrefix hquote _) fun h => absurd h hline,
      beq_false_of_ne hbackslash, ih hcs, Option.map_map]
    rfl

theorem controlDigits_plain {n : Nat} (h : n < 0x20) : ∀ c ∈ controlDigits n, IsVerbatim c := by
  have hall : ∀ k : Fin 0x20, (controlDigits k.val).all (fun c => decide (IsVerbatim c)) = true :=
    by decide
  intro c hc
  exact of_decide_eq_true (List.all_eq_true.1 (hall ⟨n, h⟩) c hc)

theorem inside_escapeChar (c : Char) (s : List Char) :
    doubleQuote.inside false (escapeChar c ++ s) =
      (doubleQuote.inside false s).map fun r => (escapeChar c ++ r.1, r.2) := by
  rcases escapeChar_cases c with ⟨h, hplain⟩ | ⟨d, h, -, -⟩ | ⟨h, hcontrol⟩
  · rw [h]
    exact inside_plain (by simpa using hplain) s
  · rw [h]
    exact QuoteMark.inside_escape (by decide) d s
  · rw [h, List.cons_append, List.cons_append, QuoteMark.inside_escape (by decide),
      inside_plain (controlDigits_plain hcontrol), Option.map_map]
    rfl

theorem unescape_escapeChar (c : Char) (s : List Char) :
    unescape named (escapeChar c ++ s) = (unescape named s).map (c :: ·) := by
  rcases escapeChar_cases c with ⟨h, -, hbackslash, -⟩ | ⟨d, h, hsimple, -⟩ | ⟨h, hcontrol⟩
  · rw [h, List.singleton_append, unescape_cons hbackslash]
  · rw [h]
    exact unescape_escape (escape_simple hsimple s)
  · have hescape : escape named ('x' :: (controlDigits c.toNat ++ s)) = some ([c], s) := by
      have hdigits := hexEscape_control hcontrol s
      rwa [Char.ofNat_toNat] at hdigits
    rw [h]
    exact unescape_escape hescape

theorem le_of_mem_escapeChar {c d : Char} (h : d ∈ escapeChar c) : 0x20 ≤ d.toNat := by
  rcases escapeChar_cases c with ⟨hc, -, -, hplain⟩ | ⟨e, hc, -, he⟩ | ⟨hc, hcontrol⟩
  · rw [hc, List.mem_singleton] at h
    rwa [h]
  · rw [hc] at h
    simp only [List.mem_cons, List.not_mem_nil, or_false] at h
    rcases h with rfl | rfl
    · decide
    · exact he
  · rw [hc, List.mem_cons, List.mem_cons] at h
    rcases h with rfl | rfl | h
    · decide
    · decide
    · exact (controlDigits_plain hcontrol d h).2.2

theorem inside_stringLiteral (t rest : List Char) :
    doubleQuote.inside false (t.flatMap escapeChar ++ '"' :: rest) =
      some (t.flatMap escapeChar, rest) := by
  induction t with
  | nil => exact doubleQuote.inside_close rest
  | cons c t ih =>
    rw [List.flatMap_cons, List.append_assoc, inside_escapeChar, ih]
    rfl

theorem unescape_stringLiteral (t : List Char) :
    unescape named (t.flatMap escapeChar) = some t := by
  induction t with
  | nil => exact unescape_nil
  | cons c t ih =>
    rw [List.flatMap_cons, unescape_escapeChar, ih]
    rfl

theorem toList_stringLiteral (t : String) :
    (stringLiteral t).toList = '"' :: (t.toList.flatMap escapeChar ++ ['"']) := by
  rw [stringLiteral, String.toList_ofList, List.cons_append]

theorem le_of_mem_stringLiteral {t : String} {c : Char} (h : c ∈ (stringLiteral t).toList) :
    0x20 ≤ c.toNat := by
  rw [toList_stringLiteral, List.mem_cons, List.mem_append, List.mem_singleton] at h
  rcases h with rfl | h | rfl
  · decide
  · obtain ⟨d, -, hd⟩ := List.mem_flatMap.1 h
    exact le_of_mem_escapeChar hd
  · decide

/-- Two quotes in front of a written text are no mark of a long literal. -/
theorem opening_stringLiteral (t : List Char) {rest : List Char} (h : rest.head? ≠ some '"') :
    QuoteMark.opening ('"' :: (t.flatMap escapeChar ++ '"' :: rest)) =
      some (doubleQuote, t.flatMap escapeChar ++ '"' :: rest) := by
  refine QuoteMark.opening_short (Or.inl rfl) ?_
  cases t with
  | nil =>
    cases rest with
    | nil => decide
    | cons c rest =>
      have hc : c ≠ '"' := fun hc => h (congrArg some hc)
      simp [Ne.symm hc]
  | cons c t =>
    rw [List.flatMap_cons]
    rcases escapeChar_cases c with ⟨h, hquote, -, -⟩ | ⟨d, h, -, -⟩ | ⟨h, -⟩
    · rw [h]
      simp [Ne.symm hquote]
    · rw [h]
      simp
    · rw [h]
      simp

/-- A literal is read to its end whatever follows on the line. -/
theorem readLiteral_stringLiteral (t : String) {rest : List Char} (hquote : rest.head? ≠ some '"')
    (hrest : ∀ c ∈ rest, 0x20 ≤ c.toNat) :
    readLiteral named ((stringLiteral t).toList ++ rest) = some (t.toList, rest) := by
  have hcontrols : ∀ c : Char, c.toNat < 0x20 → c ∉ (stringLiteral t).toList ++ rest := by
    intro c hc hmem
    rcases List.mem_append.1 hmem with hmem | hmem
    · exact absurd (le_of_mem_stringLiteral hmem) (Nat.not_le_of_lt hc)
    · exact absurd (hrest c hmem) (Nat.not_le_of_lt hc)
  refine readLiteral_eq_some_iff.2 ⟨hcontrols _ (by decide), doubleQuote, _, _, ?_,
    inside_stringLiteral t.toList rest, unescape_stringLiteral t.toList⟩
  rw [newlines_of_no_return (hcontrols _ (by decide)), toList_stringLiteral, List.cons_append,
    List.append_assoc, List.singleton_append]
  exact opening_stringLiteral t.toList hquote

theorem denotes_stringLiteral (t : String) : Denotes named (stringLiteral t) t := by
  have hread : readLiteral named ((stringLiteral t).toList ++ []) = some (t.toList, []) :=
    readLiteral_stringLiteral t (by simp) (by simp)
  rwa [List.append_nil] at hread

theorem stringLiteral_injective : Function.Injective stringLiteral := by
  intro s t h
  have hs : Denotes (fun _ => none) (stringLiteral s) s := denotes_stringLiteral s
  have ht : Denotes (fun _ => none) (stringLiteral t) t := denotes_stringLiteral t
  rw [Denotes, h, ht] at hs
  exact String.toList_injective (Prod.mk.inj (Option.some.inj hs)).1.symm

/-- Literals are read back: the literal of a text denotes it, is closed by its last character and by
no quote before that, and has no control character, so it stands on one line. No two texts have the
same literal. -/
theorem stringLiteral_readsBack (named : String → Option Char) :
    (∀ t : String, Denotes named (stringLiteral t) t ∧
      (∀ i, UnescapedAt '"' (stringLiteral t).toList i ↔
        i = 0 ∨ i + 1 = (stringLiteral t).toList.length) ∧
      ∀ c ∈ (stringLiteral t).toList, 0x20 ≤ c.toNat) ∧
    Function.Injective stringLiteral := by
  refine ⟨fun t => ⟨denotes_stringLiteral t, ?_, fun c => le_of_mem_stringLiteral⟩,
    stringLiteral_injective⟩
  rw [toList_stringLiteral]
  exact unescapedAt_iff rfl (by decide) (inside_stringLiteral t.toList [])

/-- A control character in front of a digit, a backslash and a quote at the end. -/
theorem control_readsBack :
    stringLiteral "\x011\\\"" = "\"\\x011\\\\\\\"\"" ∧
    Denotes (fun _ => none) (stringLiteral "\x011\\\"") "\x011\\\"" ∧
    ¬ UnescapedAt '"' (stringLiteral "\x011\\\"").toList 9 ∧
    'x' ∈ (stringLiteral "\x011\\\"").toList ∧ 0x20 ≤ 'x'.toNat := by
  obtain ⟨hall, -⟩ := stringLiteral_readsBack fun _ => none
  obtain ⟨hdenotes, hquotes, hchars⟩ := hall "\x011\\\""
  have hmem : 'x' ∈ (stringLiteral "\x011\\\"").toList := by decide +kernel
  refine ⟨by decide +kernel, hdenotes, ?_, hmem, hchars 'x' hmem⟩
  rw [hquotes]
  decide +kernel

end ExecutableUml.Python
