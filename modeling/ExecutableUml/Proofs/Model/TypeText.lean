import ExecutableUml.Model.DataType
import ExecutableUml.Proofs.Text.LowerCase
import ExecutableUml.Proofs.Text.Split
import ExecutableUml.Proofs.Text.Trim

/-! The text of a data type. Reading a type from text, writing it and reading it again gives the
same type; the case of the words and blanks around them do not count; and a reference to a class is
the word for it, an opening bracket and a closing bracket at the end, whatever stands between
them. -/

namespace ExecutableUml

open Text

namespace DataType

/-- The text is the word `head`, in any ASCII case, blanks, and `inside` in angle brackets. -/
def HasForm (head : String) (s inside : List Char) : Prop :=
  ∃ word gap, s = word ++ (gap ++ '<' :: (inside ++ ['>'])) ∧ SameLetters word head.toList ∧
    ∀ c ∈ gap, isBlank c = true

/-- Another text with the same letters outside of the angle brackets. These are the first opening
and the last closing one; a text that does not have both lies outside as a whole. -/
inductive Recased : List Char → List Char → Prop where
  | plain {t u : List Char} (hpair : ∀ a b c, t ≠ a ++ '<' :: (b ++ '>' :: c))
      (h : SameLetters t u) : Recased t u
  | bracketed {before before' after after' : List Char} (inside : List Char)
      (hopen : '<' ∉ before) (hclose : '>' ∉ after) (hbefore : SameLetters before before')
      (hafter : SameLetters after after') :
      Recased (before ++ '<' :: (inside ++ '>' :: after)) (before' ++ '<' :: (inside ++ '>' :: after'))

section Reference

variable {head : String} {s before inside after : List Char}

theorem afterHead_eq_some_iff {hs rest : List Char} :
    afterHead hs s = some rest ↔ ∃ word, s = word ++ rest ∧ SameLetters word hs := by
  induction hs generalizing s with
  | nil =>
    rw [afterHead, Option.some.injEq]
    constructor
    · rintro rfl
      exact ⟨[], rfl, rfl⟩
    · rintro ⟨word, rfl, hword⟩
      rw [List.map_eq_nil_iff.1 hword, List.nil_append]
  | cons h hs ih =>
    cases s with
    | nil =>
      refine iff_of_false (Option.some_ne_none _).symm fun ⟨word, hs, hword⟩ => ?_
      rw [(List.append_eq_nil_iff.1 hs.symm).1] at hword
      cases hword
    | cons c s =>
      rw [afterHead]
      split
      · rename_i hc
        rw [ih]
        constructor
        · rintro ⟨word, rfl, hword⟩
          exact ⟨c :: word, rfl, congrArg₂ List.cons hc.symm hword⟩
        · rintro ⟨word, hs, hword⟩
          cases word with
          | nil => cases hword
          | cons d word =>
            obtain ⟨rfl, rfl⟩ := List.cons.inj hs
            exact ⟨word, rfl, (List.cons.inj hword).2⟩
      · rename_i hc
        refine iff_of_false (Option.some_ne_none _).symm fun ⟨word, hs, hword⟩ => ?_
        cases word with
        | nil => cases hword
        | cons d word =>
          obtain ⟨rfl, rfl⟩ := List.cons.inj hs
          exact hc (List.cons.inj hword).1.symm

theorem stripEnd_eq_some_iff {stop rest : List Char} :
    stripEnd stop s = some rest ↔ s = rest ++ stop := by
  rw [stripEnd, Option.map_eq_some_iff]
  constructor
  · rintro ⟨back, hback, rfl⟩
    have hs := congrArg List.reverse (stripStart_eq_some_iff.1 hback)
    simpa using hs
  · rintro rfl
    exact ⟨rest.reverse, stripStart_eq_some_iff.2 (by simp), List.reverse_reverse rest⟩

theorem trimStart_eq_cons_iff {c : Char} (hc : isBlank c = false) {rest : List Char} :
    trimStart s = c :: rest ↔ ∃ gap, s = gap ++ c :: rest ∧ ∀ d ∈ gap, isBlank d = true := by
  constructor
  · intro h
    refine ⟨s.takeWhile isBlank, ?_, List.all_eq_true.1 List.all_takeWhile⟩
    rw [← h, trimStart, List.takeWhile_append_dropWhile]
  · rintro ⟨gap, rfl, hgap⟩
    rw [trimStart, List.dropWhile_append_of_pos hgap, List.dropWhile_cons_of_neg (by simp [hc])]

theorem reference_eq_some_iff {c : String} :
    reference head s = some c ↔ ∃ inside, HasForm head s inside ∧ c = String.ofList (trim inside) := by
  constructor
  · intro h
    obtain ⟨behind, hhead, h⟩ := Option.bind_eq_some_iff.1 h
    obtain ⟨opened, hopen, h⟩ := Option.bind_eq_some_iff.1 h
    obtain ⟨inside, hclose, h⟩ := Option.bind_eq_some_iff.1 h
    cases h
    obtain ⟨word, rfl, hword⟩ := afterHead_eq_some_iff.1 hhead
    obtain ⟨gap, rfl, hgap⟩ :=
      (trimStart_eq_cons_iff (by decide)).1 (stripStart_eq_some_iff.1 hopen)
    obtain rfl := stripEnd_eq_some_iff.1 hclose
    exact ⟨inside, ⟨word, gap, rfl, hword, hgap⟩, rfl⟩
  · rintro ⟨inside, ⟨word, gap, rfl, hword, hgap⟩, rfl⟩
    refine Option.bind_eq_some_iff.2 ⟨_, afterHead_eq_some_iff.2 ⟨word, rfl, hword⟩, ?_⟩
    refine Option.bind_eq_some_iff.2 ⟨inside ++ ['>'], ?_, ?_⟩
    · exact stripStart_eq_some_iff.2 ((trimStart_eq_cons_iff (by decide)).2 ⟨gap, rfl, hgap⟩)
    · exact Option.bind_eq_some_iff.2 ⟨inside, stripEnd_eq_some_iff.2 rfl, rfl⟩

/-- The words in front of a class. -/
theorem head_chars (h : head = "inst_ref" ∨ head = "inst_ref_set") :
    head.toList ≠ [] ∧ ∀ c ∈ head.toList, (isBlank c || c == '<') = false := by
  have hnone : head.toList ≠ [] ∧ head.toList.any (fun c => isBlank c || c == '<') = false := by
    rcases h with rfl | rfl
    · decide
    · decide
  exact ⟨hnone.1, fun c hc => Bool.eq_false_iff.2 (List.any_eq_false.1 hnone.2 c hc)⟩

/-- Such a word in another case has no blank and no bracket either. -/
theorem word_chars (h : head = "inst_ref" ∨ head = "inst_ref_set") {word : List Char}
    (hword : SameLetters word head.toList) :
    word ≠ [] ∧ (∀ c ∈ word, isBlank c = false) ∧ '<' ∉ word := by
  obtain ⟨hne, hchars⟩ := head_chars h
  have hall : ∀ c ∈ word, (isBlank c || c == '<') = false :=
    hword.symm.forall_mem (toLower_invariant (by decide)) hchars
  simp only [Bool.or_eq_false_iff] at hall
  refine ⟨?_, fun c hc => (hall c hc).1, fun hc => ?_⟩
  · rintro rfl
    exact hne (List.map_eq_nil_iff.1 hword.symm)
  · exact absurd (hall _ hc).2 (by decide)

/-- What the text in front of the brackets, inside and behind them have to be for a reference. -/
theorem hasForm_bracketed_iff (h : head = "inst_ref" ∨ head = "inst_ref_set")
    (hopen : '<' ∉ before) (hclose : '>' ∉ after) {found : List Char} :
    HasForm head (trim (before ++ '<' :: (inside ++ '>' :: after))) found ↔
      found = inside ∧ SameLetters (trim before) head.toList ∧ ∀ c ∈ after, isBlank c = true := by
  have hblank : ∀ {l : List Char} {mark : Char}, isBlank mark = false →
      (∀ c ∈ l, isBlank c = true) → mark ∉ l := by
    intro l mark hmark hl hmem
    rw [hl mark hmem] at hmark
    cases hmark
  constructor
  · rintro ⟨word, gap, htrim, hword, hgap⟩
    obtain ⟨-, hchars, hbracket⟩ := word_chars h hword
    obtain ⟨lead, trail, hpadded, hlead, htrail⟩ :=
      trim_takes (before ++ '<' :: (inside ++ '>' :: after))
    have hsplit : before ++ '<' :: (inside ++ '>' :: after) =
        (lead ++ (word ++ gap)) ++ '<' :: (found ++ '>' :: trail) := by
      rw [hpadded, htrim]
      simp
    have hfront : '<' ∉ lead ++ (word ++ gap) := by
      simp only [List.mem_append, not_or]
      exact ⟨hblank (by decide) hlead, hbracket, hblank (by decide) hgap⟩
    have hcut := congrArg (cutAtChar '<') hsplit
    rw [cutAtChar_append hopen, cutAtChar_append hfront, Option.some.injEq, Prod.mk.injEq] at hcut
    obtain ⟨rfl, hbehind⟩ := hcut
    obtain rfl := eq_of_append_sep hclose (hblank (by decide) htrail) hbehind
    refine ⟨(List.append_cancel_right hbehind).symm, ?_, htrail⟩
    rwa [trim_padded hlead hgap, trim_eq_self]
    · exact fun c hc => hchars c (List.mem_of_mem_head? hc)
    · exact fun c hc => hchars c (List.mem_of_mem_getLast? hc)
  · rintro ⟨rfl, hword, hafter⟩
    obtain ⟨hne, hchars, -⟩ := word_chars h hword
    obtain ⟨lead, gap, hbefore, hlead, hgap⟩ := trim_takes before
    refine ⟨trim before, gap, ?_, hword, hgap⟩
    have hpadded : before ++ '<' :: (found ++ '>' :: after) =
        lead ++ ((trim before ++ (gap ++ '<' :: (found ++ ['>']))) ++ after) := by
      conv => lhs; rw [hbefore]
      simp
    rw [hpadded, trim_padded hlead hafter]
    apply trim_eq_self
    · intro c hc
      obtain ⟨d, word, hd⟩ := List.exists_cons_of_ne_nil hne
      rw [hd] at hc hchars
      cases hc
      exact hchars _ List.mem_cons_self
    · intro c hc
      have hend : trim before ++ (gap ++ '<' :: (found ++ ['>'])) =
          (trim before ++ (gap ++ '<' :: found)) ++ ['>'] := by simp
      rw [hend, List.getLast?_concat] at hc
      cases hc
      decide

theorem HasForm.split (h : head = "inst_ref" ∨ head = "inst_ref_set") (hform : HasForm head s inside) :
    ∃ before, s = before ++ '<' :: (inside ++ '>' :: []) ∧ '<' ∉ before := by
  obtain ⟨word, gap, rfl, hword, hgap⟩ := hform
  obtain ⟨-, -, hbracket⟩ := word_chars h hword
  refine ⟨word ++ gap, by simp, ?_⟩
  rw [List.mem_append, not_or]
  exact ⟨hbracket, fun hmem => absurd (hgap _ hmem) (by decide)⟩

/-- No text refers both to an instance and to a set of instances. -/
theorem not_both_forms {found : List Char} (hs : trim s = s) (hform : HasForm "inst_ref_set" s inside) :
    ¬ HasForm "inst_ref" s found := by
  intro hother
  obtain ⟨before, rfl, hopen⟩ := hform.split (Or.inr rfl)
  rw [← hs] at hform hother
  obtain ⟨-, hset, -⟩ := (hasForm_bracketed_iff (Or.inr rfl) hopen List.not_mem_nil).1 hform
  obtain ⟨-, hone, -⟩ := (hasForm_bracketed_iff (Or.inl rfl) hopen List.not_mem_nil).1 hother
  exact absurd (hset.symm.trans hone) (by unfold SameLetters; decide)

end Reference

section Parse

variable {t u : String} {c : String}

theorem parse_congr (h : trim t.toList = trim u.toList) : parse t = parse u := by
  unfold parse
  rw [h]

/-- Reading distinguishes three kinds of text. -/
theorem parse_cases (t : String) :
    (∃ inside, HasForm "inst_ref_set" (trim t.toList) inside ∧
      parse t = .instRefSet (some (String.ofList (trim inside)))) ∨
    (∃ inside, HasForm "inst_ref" (trim t.toList) inside ∧
      parse t = .instRef (String.ofList (trim inside))) ∨
    ((∀ head, head = "inst_ref" ∨ head = "inst_ref_set" → ∀ inside,
        ¬ HasForm head (trim t.toList) inside) ∧
      parse t = (named (asciiLower (trimmed t))).getD (.unknown (trimmed t))) := by
  have hnone : ∀ {head}, reference head (trim t.toList) = none →
      ∀ inside, ¬ HasForm head (trim t.toList) inside := by
    intro head h inside hform
    rw [reference_eq_some_iff.2 ⟨inside, hform, rfl⟩] at h
    cases h
  cases hset : reference "inst_ref_set" (trim t.toList) with
  | some c =>
    obtain ⟨inside, hform, rfl⟩ := reference_eq_some_iff.1 hset
    exact Or.inl ⟨inside, hform, by simp only [parse, hset]⟩
  | none =>
    cases hone : reference "inst_ref" (trim t.toList) with
    | some c =>
      obtain ⟨inside, hform, rfl⟩ := reference_eq_some_iff.1 hone
      exact Or.inr (Or.inl ⟨inside, hform, by simp only [parse, hset, hone]⟩)
    | none =>
      refine Or.inr (Or.inr ⟨?_, by simp only [parse, hset, hone, trimmed]⟩)
      rintro head (rfl | rfl)
      · exact hnone hone
      · exact hnone hset

/-- The plain words name no class and have no brackets, and the text of such a type is read back. -/
theorem named_cases {word : String} {d : DataType} (h : named word = some d) :
    d.referencedClass = none ∧ '<' ∉ word.toList ∧ parse d.text = d := by
  unfold named at h
  split at h
  all_goals cases h
  all_goals decide +kernel

theorem referencedClass_plain (word raw : String) :
    ((named word).getD (.unknown raw)).referencedClass = none := by
  cases h : named word with
  | none => rfl
  | some d => exact (named_cases h).1

theorem parse_eq_instRefSet_iff :
    parse t = .instRefSet (some c) ↔
      ∃ inside, HasForm "inst_ref_set" (trim t.toList) inside ∧ c = String.ofList (trim inside) := by
  rw [← reference_eq_some_iff]
  rcases parse_cases t with ⟨inside, hform, hparse⟩ | ⟨inside, hform, hparse⟩ | ⟨hnone, hparse⟩
  · rw [hparse, reference_eq_some_iff.2 ⟨inside, hform, rfl⟩]
    simp
  · rw [hparse, reference_eq_some_iff]
    refine iff_of_false (by simp) fun ⟨other, hother, _⟩ => ?_
    exact not_both_forms (trim_trim _) hother hform
  · rw [reference_eq_some_iff]
    refine iff_of_false (fun h => ?_) fun ⟨other, hother, _⟩ => hnone _ (Or.inr rfl) other hother
    have hplain := referencedClass_plain (asciiLower (trimmed t)) (trimmed t)
    rw [← hparse, h] at hplain
    cases hplain

theorem parse_eq_instRef_iff :
    parse t = .instRef c ↔
      ∃ inside, HasForm "inst_ref" (trim t.toList) inside ∧ c = String.ofList (trim inside) := by
  rw [← reference_eq_some_iff]
  rcases parse_cases t with ⟨inside, hform, hparse⟩ | ⟨inside, hform, hparse⟩ | ⟨hnone, hparse⟩
  · rw [hparse, reference_eq_some_iff]
    refine iff_of_false (by simp) fun ⟨other, hother, _⟩ => ?_
    exact not_both_forms (trim_trim _) hform hother
  · rw [hparse, reference_eq_some_iff.2 ⟨inside, hform, rfl⟩]
    simp
  · rw [reference_eq_some_iff]
    refine iff_of_false (fun h => ?_) fun ⟨other, hother, _⟩ => hnone _ (Or.inl rfl) other hother
    have hplain := referencedClass_plain (asciiLower (trimmed t)) (trimmed t)
    rw [← hparse, h] at hplain
    cases hplain

/-- A reference as it is written is a reference to the same class. -/
theorem hasForm_written {head : String} (h : head = "inst_ref" ∨ head = "inst_ref_set")
    (inside : List Char) :
    HasForm head (trim (head ++ "<" ++ String.ofList inside ++ ">").toList) inside := by
  have hwritten : (head ++ "<" ++ String.ofList inside ++ ">").toList =
      head.toList ++ '<' :: (inside ++ '>' :: []) := by
    simp
  have hsame : SameLetters head.toList head.toList := rfl
  obtain ⟨-, hblank, hopen⟩ := word_chars h hsame
  rw [hwritten, hasForm_bracketed_iff h hopen List.not_mem_nil]
  refine ⟨rfl, ?_, by simp⟩
  rw [trim_eq_self]
  · rfl
  · exact fun c hc => hblank c (List.mem_of_mem_head? hc)
  · exact fun c hc => hblank c (List.mem_of_mem_getLast? hc)

theorem parse_text_parse (t : String) : parse (parse t).text = parse t := by
  rcases parse_cases t with ⟨inside, -, hparse⟩ | ⟨inside, -, hparse⟩ | ⟨-, hparse⟩
  · rw [hparse]
    exact parse_eq_instRefSet_iff.2 ⟨trim inside, hasForm_written (Or.inr rfl) _, by rw [trim_trim]⟩
  · rw [hparse]
    exact parse_eq_instRef_iff.2 ⟨trim inside, hasForm_written (Or.inl rfl) _, by rw [trim_trim]⟩
  · cases hnamed : named (asciiLower (trimmed t)) with
    | some d =>
      rw [hparse, hnamed]
      exact (named_cases hnamed).2.2
    | none =>
      have hraw : (parse t).text = trimmed t := by
        rw [hparse, hnamed]
        rfl
      rw [hraw]
      exact parse_congr (by rw [trimmed, String.toList_ofList, trim_trim])

theorem parse_padded {lead trail : String} (hlead : ∀ c ∈ lead.toList, isBlank c = true)
    (htrail : ∀ c ∈ trail.toList, isBlank c = true) (t : String) :
    parse (lead ++ t ++ trail) = parse t := by
  apply parse_congr
  rw [String.toList_append, String.toList_append, List.append_assoc, trim_padded hlead htrail]

end Parse

section Case

variable {head : String} {s r inside : List Char}

theorem eq_of_toLower_eq {mark : Char} (hmark : mark = '<' ∨ mark = '>') {c : Char}
    (h : c.toLower = mark) : c = mark := by
  have hsame : (c == mark) = (c.toLower == mark) := by
    rcases hmark with rfl | rfl
    · exact (toLower_invariant (f := (· == '<')) (by decide) c).symm
    · exact (toLower_invariant (f := (· == '>')) (by decide) c).symm
  rw [h, beq_self_eq_true] at hsame
  exact eq_of_beq hsame

theorem not_mem_of_sameLetters {mark : Char} (hmark : mark = '<' ∨ mark = '>')
    (h : SameLetters s r) (hs : mark ∉ s) : mark ∉ r := by
  intro hr
  have hlow : mark.toLower ∈ r.map Char.toLower := List.mem_map_of_mem hr
  rw [← h] at hlow
  obtain ⟨c, hc, hcm⟩ := List.mem_map.1 hlow
  have hsmall : mark.toLower = mark := by
    rcases hmark with rfl | rfl <;> decide
  exact hs (eq_of_toLower_eq hmark (hcm.trans hsmall) ▸ hc)

theorem pair_of_sameLetters {a b c : List Char} (h : SameLetters s r)
    (hr : r = a ++ '<' :: (b ++ '>' :: c)) : ∃ a b c, s = a ++ '<' :: (b ++ '>' :: c) := by
  subst hr
  rw [SameLetters, List.map_append, List.map_cons, List.map_append, List.map_cons] at h
  obtain ⟨a', rest, rfl, -, h⟩ := List.map_eq_append_iff.1 h
  obtain ⟨x, rest, rfl, hx, h⟩ := List.map_eq_cons_iff.1 h
  obtain ⟨b', rest, rfl, -, h⟩ := List.map_eq_append_iff.1 h
  obtain ⟨y, c', rfl, hy, -⟩ := List.map_eq_cons_iff.1 h
  obtain rfl := eq_of_toLower_eq (Or.inl rfl) hx
  obtain rfl := eq_of_toLower_eq (Or.inr rfl) hy
  exact ⟨a', b', c', rfl⟩

theorem HasForm.pair (h : HasForm head (trim s) inside) :
    ∃ a b c, s = a ++ '<' :: (b ++ '>' :: c) := by
  obtain ⟨word, gap, htrim, -, -⟩ := h
  obtain ⟨lead, trail, hs, -, -⟩ := trim_takes s
  refine ⟨lead ++ (word ++ gap), inside, trail, ?_⟩
  rw [hs, htrim]
  simp

/-- Texts with the same letters outside of the brackets make the same references. -/
theorem Recased.hasForm_iff (hsr : Recased s r) (h : head = "inst_ref" ∨ head = "inst_ref_set") :
    HasForm head (trim s) inside ↔ HasForm head (trim r) inside := by
  cases hsr with
  | plain hpair hsame =>
    refine iff_of_false (fun hform => ?_) fun hform => ?_
    · obtain ⟨a, b, c, hs⟩ := hform.pair
      exact hpair a b c hs
    · obtain ⟨a, b, c, hr⟩ := hform.pair
      obtain ⟨a, b, c, hs⟩ := pair_of_sameLetters hsame hr
      exact hpair a b c hs
  | bracketed found hopen hclose hbefore hafter =>
    rw [hasForm_bracketed_iff h hopen hclose,
      hasForm_bracketed_iff h (not_mem_of_sameLetters (Or.inl rfl) hbefore hopen)
        (not_mem_of_sameLetters (Or.inr rfl) hafter hclose)]
    refine and_congr_right fun _ => and_congr ?_ ⟨hafter.blank, hafter.symm.blank⟩
    exact ⟨hbefore.trim.symm.trans, hbefore.trim.trans⟩

theorem asciiLower_trimmed {t u : String} (h : SameLetters t.toList u.toList) :
    asciiLower (trimmed t) = asciiLower (trimmed u) := by
  rw [asciiLower, asciiLower, trimmed, trimmed, String.toList_ofList, String.toList_ofList, h.trim]

/-- A plain word has no brackets, so all of it may change its case. -/
theorem Recased.sameLetters {t : String} (h : Recased t.toList r) {d : DataType}
    (hnamed : named (asciiLower (trimmed t)) = some d) : SameLetters t.toList r := by
  generalize ht : t.toList = s at h
  cases h with
  | plain _ hsame => exact hsame
  | @bracketed before _ after _ inside =>
    refine absurd ?_ (named_cases hnamed).2.1
    obtain ⟨lead, trail, htrim, hlead, htrail⟩ := trim_takes t.toList
    have hmem : '<' ∈ lead ++ (trim t.toList ++ trail) := by
      rw [← htrim, ht]
      simp
    rcases List.mem_append.1 hmem with hmem | hmem
    · exact absurd (hlead _ hmem) (by decide)
    · rcases List.mem_append.1 hmem with hmem | hmem
      · rw [asciiLower, trimmed, String.toList_ofList, String.toList_ofList]
        exact List.mem_map.2 ⟨'<', hmem, by decide⟩
      · exact absurd (htrail _ hmem) (by decide)

theorem parse_recased {t u : String} (h : Recased t.toList u.toList)
    (hknown : (parse t).isKnown = true) : parse u = parse t := by
  rcases parse_cases t with ⟨inside, hform, hparse⟩ | ⟨inside, hform, hparse⟩ | ⟨hnone, hparse⟩
  · rw [hparse]
    exact parse_eq_instRefSet_iff.2 ⟨inside, (h.hasForm_iff (Or.inr rfl)).1 hform, rfl⟩
  · rw [hparse]
    exact parse_eq_instRef_iff.2 ⟨inside, (h.hasForm_iff (Or.inl rfl)).1 hform, rfl⟩
  · cases hnamed : named (asciiLower (trimmed t)) with
    | none =>
      rw [hparse, hnamed] at hknown
      cases hknown
    | some d =>
      have hlower := asciiLower_trimmed (h.sameLetters hnamed)
      rcases parse_cases u with ⟨i, hform, -⟩ | ⟨i, hform, -⟩ | ⟨-, hother⟩
      · exact absurd ((h.hasForm_iff (Or.inr rfl)).2 hform) (hnone _ (Or.inr rfl) i)
      · exact absurd ((h.hasForm_iff (Or.inl rfl)).2 hform) (hnone _ (Or.inl rfl) i)
      · rw [hother, hparse, ← hlower, hnamed]
        rfl

end Case

/-- How a text is read as a data type does not depend on how the type is spelled. -/
structure ReadsStably (t : String) : Prop where
  /-- The type as it is written is read as the same type. -/
  written : parse (parse t).text = parse t
  /-- Outside of the angle brackets the case of a known type does not count. -/
  recased : ∀ u : String, Recased t.toList u.toList → (parse t).isKnown = true → parse u = parse t
  /-- Blanks around the text never count. -/
  padded : ∀ lead trail : String, (∀ c ∈ lead.toList, isBlank c = true) →
    (∀ c ∈ trail.toList, isBlank c = true) → parse (lead ++ t ++ trail) = parse t
  /-- The class is what stands between the brackets, without the blanks around it. -/
  instRef : ∀ c, parse t = .instRef c ↔
    ∃ inside, HasForm "inst_ref" (trim t.toList) inside ∧ c = String.ofList (trim inside)
  instRefSet : ∀ c, parse t = .instRefSet (some c) ↔
    ∃ inside, HasForm "inst_ref_set" (trim t.toList) inside ∧ c = String.ofList (trim inside)

/-- Every text is read as a type in a way that its spelling does not change. -/
theorem parse_stable (t : String) : ReadsStably t where
  written := parse_text_parse t
  recased _ h hknown := parse_recased h hknown
  padded _ _ hlead htrail := parse_padded hlead htrail t
  instRef _ := parse_eq_instRef_iff
  instRefSet _ := parse_eq_instRefSet_iff

example : parse " INST_ref  < a<b, é> > " = .instRef "a<b, é>" := by decide +kernel

end DataType

end ExecutableUml
