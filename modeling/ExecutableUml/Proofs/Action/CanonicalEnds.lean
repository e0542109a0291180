import ExecutableUml.Proofs.Action.Words

/-! Both ends of a canonical text. It starts with a name or with a mark of its own and does not end
in a blank, so the line is no comment and is read as it stands. -/

namespace ExecutableUml.Action

open Text

/-- The fixed words of the canonical texts are names themselves. -/
@[simp] theorem isName_fixedWords :
    IsName "if" ∧ IsName "elif" ∧ IsName "while" ∧ IsName "for" ∧ IsName "return" ∧
    IsName "select" ∧ IsName "create" ∧ IsName "delete" ∧ IsName "relate" ∧ IsName "unrelate" ∧
    IsName "send" ∧ IsName "generate" ∧ IsName "assign" ∧ IsName "each" ∧ IsName "in" ∧
    IsName "any" ∧ IsName "one" ∧ IsName "many" ∧ IsName "from" ∧ IsName "instances" ∧
    IsName "of" ∧ IsName "related" ∧ IsName "by" ∧ IsName "where" ∧ IsName "object" ∧
    IsName "event" ∧ IsName "instance" ∧ IsName "to" ∧ IsName "across" ∧ IsName "using" ∧
    IsName "else" ∧ IsName "end" ∧ IsName "break" ∧ IsName "continue" := by
  decide +kernel

@[simp] theorem isName_word (card : Cardinality) : IsName card.word := by
  cases card <;> simp [Cardinality.word]

/-- A line that begins like this is no comment. -/
def StartsLine (text : String) : Prop :=
  ∃ c ∈ text.toList.head?, isBlank c = false ∧ (isWordStart c = true ∨ c = ':')

theorem StartsLine.append {first : String} (h : StartsLine first) (second : String) :
    StartsLine (first ++ second) := by
  obtain ⟨c, hc, hstart⟩ := h
  refine ⟨c, ?_, hstart⟩
  rw [String.toList_append, List.head?_append, Option.mem_def.1 hc]
  rfl

theorem IsName.startsLine {x : String} (h : IsName x) : StartsLine x := by
  have hhead := h.head []
  have htokens := h.tokens
  cases hx : x.toList with
  | nil =>
    rw [hx, Action.tokens] at htokens
    cases htokens
  | cons c cs =>
    rw [hx] at hhead
    obtain ⟨hb, hw⟩ := hhead c rfl
    exact ⟨c, by rw [hx]; rfl, hb, Or.inl hw⟩

theorem startsLine_phrase (w : String) (h : IsName w) (xs : List String) :
    StartsLine (phrase (w :: xs)) := by
  have hw := h.startsLine
  cases xs with
  | nil => exact hw
  | cons y ys => exact (hw.append " ").append (phrase (y :: ys))

theorem groupText_endsClean (inside : String) : EndsClean (groupText inside) :=
  EndsClean.append ⟨')', rfl, by decide⟩ _

theorem whereText_endsClean {text : String} (h : EndsClean text) (c : Option String) :
    EndsClean (text ++ whereText c) := by
  cases c with
  | none => rwa [whereText, String.append_empty]
  | some c => exact ((groupText_endsClean c).append " where ").append text

theorem hopsText_endsClean {text : String} (h : EndsClean text) (hops : List Hop) :
    EndsClean (text ++ hopsText hops) := by
  induction hops generalizing text with
  | nil => rwa [hopsText, String.append_empty]
  | cons s hops ih =>
    have hbracket : EndsClean "]" := ⟨']', rfl, by decide⟩
    rw [hopsText, ← String.append_assoc]
    exact ih ((hbracket.append _).append text)

theorem isName_linkWords {link : Option String} (h : ∀ x ∈ link, IsName x) :
    ∀ y ∈ linkWords link, IsName y := by
  cases link with
  | none => simp [linkWords]
  | some l => simp [linkWords, h l rfl]

namespace Statement

theorem canonical_startsLine {s : Statement} (h : s.Printable) : StartsLine s.canonical := by
  cases s with
  | comment | unrecognized => cases h
  | elseBegin => exact startsLine_phrase "else" (by simp) []
  | ifEnd => exact startsLine_phrase "end" (by simp) ["if"]
  | forEnd => exact startsLine_phrase "end" (by simp) ["for"]
  | whileEnd => exact startsLine_phrase "end" (by simp) ["while"]
  | breakLoop => exact startsLine_phrase "break" (by simp) []
  | continueLoop => exact startsLine_phrase "continue" (by simp) []
  | ifBegin c => exact ((startsLine_phrase "if" (by simp) []).append " ").append _
  | elseIf c => exact ((startsLine_phrase "elif" (by simp) []).append " ").append _
  | whileBegin c => exact ((startsLine_phrase "while" (by simp) []).append " ").append _
  | forEach var c => exact ((startsLine_phrase "for" (by simp) _).append " ").append _
  | returnValue value =>
    cases value with
    | none => exact startsLine_phrase "return" (by simp) []
    | some value => exact ((startsLine_phrase "return" (by simp) []).append " ").append _
  | selectInstances => exact (startsLine_phrase "select" (by simp) _).append _
  | selectRelated => exact ((startsLine_phrase "select" (by simp) _).append _).append _
  | createObject => exact startsLine_phrase "create" (by simp) _
  | deleteObject => exact startsLine_phrase "delete" (by simp) _
  | relate => exact startsLine_phrase "relate" (by simp) _
  | unrelate => exact startsLine_phrase "unrelate" (by simp) _
  | unrelateNavigated =>
    exact (((startsLine_phrase "unrelate" (by simp) _).append _).append " ").append _
  | send => exact (((startsLine_phrase "send" (by simp) _).append _).append " to ").append _
  | createEvent =>
    exact ((((startsLine_phrase "create" (by simp) _).append " ").append _).append " to ").append _
  | generate =>
    have hword := startsLine_phrase "generate" (by simp) []
    exact (((hword.append " ").append _).append " to ").append _
  | generateInstance => exact startsLine_phrase "generate" (by simp) _
  | bridgeCall => exact ((h.1.startsLine.append "::").append _).append _
  | functionCall =>
    have hcolons : StartsLine "::" := ⟨':', rfl, by decide, Or.inr rfl⟩
    exact (hcolons.append _).append _
  | methodCall => exact ((h.1.startsLine.append ".").append _).append _
  | assign =>
    exact ((((startsLine_phrase "assign" (by simp) []).append " ").append _).append " = ").append _

theorem canonical_endsClean {s : Statement} (h : s.Printable) : EndsClean s.canonical := by
  cases s with
  | comment | unrecognized => cases h
  | elseBegin => exact ⟨'e', rfl, by decide⟩
  | ifEnd => exact ⟨'f', rfl, by decide⟩
  | forEnd => exact ⟨'r', rfl, by decide⟩
  | whileEnd => exact ⟨'e', rfl, by decide⟩
  | breakLoop => exact ⟨'k', rfl, by decide⟩
  | continueLoop => exact ⟨'e', rfl, by decide⟩
  | ifBegin c | elseIf c | whileBegin c => exact (groupText_endsClean c).append _
  | forEach => exact h.2.endsClean.append _
  | returnValue value =>
    cases value with
    | none => exact ⟨'n', rfl, by decide⟩
    | some value => exact (h value rfl).endsClean.append _
  | selectInstances card var classRef c =>
    obtain ⟨hv, hr, -⟩ := h
    rw [canonical]
    refine whereText_endsClean (phrase_endsClean ?_) c
    simp [hv, hr]
  | selectRelated card var source hops c =>
    obtain ⟨hv, hs, -⟩ := h
    rw [canonical]
    refine whereText_endsClean (hopsText_endsClean (phrase_endsClean ?_) hops) c
    simp [hv, hs]
  | createObject var classRef =>
    refine phrase_endsClean ?_
    simp [h.1, h.2]
  | deleteObject var | generateInstance var =>
    refine phrase_endsClean ?_
    have hvar : IsName var := h
    simp [hvar]
  | relate source target relId link | unrelate source target relId link =>
    obtain ⟨hs, ht, hr, hl⟩ := h
    refine phrase_endsClean ?_
    simp [hs, ht, hr]
    exact isName_linkWords hl
  | unrelateNavigated source start hop relId =>
    refine (phrase_endsClean ?_).append _
    simp [h.2.2.2]
  | send => exact h.2.2.endsClean.append _
  | createEvent => exact h.2.2.2.2.endsClean.append _
  | generate => exact h.2.2.2.endsClean.append _
  | bridgeCall | functionCall | methodCall => exact (groupText_endsClean _).append _
  | assign => exact h.2.endsClean.append _

end Statement

theorem StartsLine.not_comment {text : String} (h : StartsLine text) :
    isCommentLine text.toList = false := by
  obtain ⟨c, hc, -, hstart⟩ := h
  have hmarks : ∀ m ∈ ['/', '#', '*'], m ≠ c := by
    rintro m hm rfl
    simp only [List.mem_cons, List.not_mem_nil, or_false] at hm
    rcases hm with rfl | rfl | rfl <;> revert hstart <;> decide
  cases ht : text.toList with
  | nil => rfl
  | cons d rest =>
    rw [ht] at hc
    cases hc
    simp only [List.forall_mem_cons] at hmarks
    simp [isCommentLine, startsWith, stripStart, hmarks]

/-- The line is read as it stands. -/
theorem parseLine_eq_statement {text : String} (hs : StartsLine text) (he : EndsClean text) :
    parseLine text =
      (Grammar.statement (wordsFrom [] text.toList)).getD (.unrecognized text) := by
  have hcomment := hs.not_comment
  obtain ⟨c, hc, hblank, -⟩ := hs
  obtain ⟨d, hd, hblank'⟩ := he
  have htrim : trim text.toList = text.toList := by
    refine trim_eq_self (fun x hx => ?_) fun x hx => ?_
    · rwa [Option.mem_unique hx hc]
    · rwa [Option.mem_unique hx hd]
  simp only [parseLine, htrim, hcomment, String.ofList_toList]
  rfl

end ExecutableUml.Action
