import ExecutableUml.Proofs.Action.CanonicalEnds
import ExecutableUml.Proofs.Action.Groups

/-! The clauses that several statements share are read back from the words of their canonical text:
conditions of selections, steps of a chain, events with their arguments, targets of assignments. -/

namespace ExecutableUml.Action

open Text

section Phrases

variable {gap rest : List Char} {x : String} {xs : List String}

theorem wordsFrom_phrase_end (h : ∀ y ∈ x :: xs, IsName y) :
    wordsFrom gap (phrase (x :: xs)).toList = nameWords gap (x :: xs) := by
  rw [← List.append_nil (phrase (x :: xs)).toList, wordsFrom_phrase h (by rintro _ ⟨⟩),
    wordsFrom_nil, List.append_nil]

theorem wordsFrom_phrase_space (h : ∀ y ∈ x :: xs, IsName y)
    (hr : ∀ c ∈ rest.head?, isBlank c = false) :
    wordsFrom gap ((phrase (x :: xs)).toList ++ ' ' :: rest) =
      nameWords gap (x :: xs) ++ wordsFrom [' '] rest := by
  rw [wordsFrom_phrase h (by rintro _ ⟨⟩; decide), wordsFrom_space hr]
  rfl

/-- One fixed word between blanks. -/
theorem wordsFrom_space_name {w : String} (h : IsName w)
    (hr : ∀ c ∈ rest.head?, isBlank c = false) :
    wordsFrom gap (' ' :: (w.toList ++ ' ' :: rest)) =
      nameWord (gap ++ [' ']) w :: wordsFrom [' '] rest := by
  rw [wordsFrom_space fun c hc => (h.head _ c hc).1, wordsFrom_name h (by rintro _ ⟨⟩; decide),
    wordsFrom_space hr]
  rfl

end Phrases

theorem groupText_head (inside : String) :
    ∀ c ∈ (groupText inside).toList.head?, isBlank c = false := by
  simp [groupText, String.toList_append]
  decide

theorem argumentsText_head (args : List Argument) (rest : List Char) :
    ∀ c ∈ ((argumentsText args).toList ++ rest).head?, isWordChar c = false := by
  simp [argumentsText, groupText, String.toList_append]
  decide

namespace Grammar

@[simp] theorem sameUpToAsciiCase_self (x : String) : sameUpToAsciiCase x x = true := by
  simp [sameUpToAsciiCase]

@[simp] theorem punct_nil (m : String) : punct m [] = none := rfl

@[simp] theorem keyword_nil (w : String) : keyword w [] = none := rfl

@[simp] theorem finish_nil {α : Type} (value : α) : finish value [] = some value := rfl

theorem atEnd_cons {w : Word} (h : w.isPunct ";" = false) (ws : List Word) :
    atEnd (w :: ws) = false := by
  rw [atEnd, content, List.reverse_cons,
    dropWhile_append_of_stop (by rintro - _ ⟨⟩; exact h), List.reverse_append]
  rfl

theorem statement_nameWord (gap : List Char) (x : String) (ws : List Word) :
    statement (nameWord gap x :: ws) =
      (announced (asciiLower x) ws).getD (callOrAssignment (nameWord gap x :: ws)) := by
  rw [statement, if_pos isIdent_nameWord, text_nameWord]
  cases announced (asciiLower x) ws <;> rfl

/-- A word that announces a form decides the line. -/
theorem statement_announced {gap : List Char} {w : String} {ws : List Word} {r : Option Statement}
    (hw : asciiLower w = w) (h : announced w ws = some r) :
    statement (nameWord gap w :: ws) = r := by
  rw [statement_nameWord, hw, h]
  rfl

theorem statement_nameWords {gap : List Char} {w : String} {xs : List String} {ws : List Word}
    {r : Option Statement} (hw : asciiLower w = w)
    (h : announced w (nameWords [' '] xs ++ ws) = some r) :
    statement (nameWords gap (w :: xs) ++ ws) = r :=
  statement_announced hw h

theorem announced_eq_none {w : String} (h : w ∉ leadingWords) (ws : List Word) :
    announced w ws = none := by
  unfold announced
  split
  case h_18 => rfl
  all_goals exact absurd (by decide) h

theorem cardinality_word (gap : List Char) (card : Cardinality) (ws : List Word) :
    cardinality (nameWord gap card.word :: ws) = some (card, ws) := by
  cases card <;> simp +decide [cardinality, Cardinality.word]

theorem across_nameWords (gap : List Char) (relId : String) (link : Option String) :
    across (nameWords gap ("across" :: relId :: linkWords link)) = some (relId, link) := by
  cases link <;> simp [linkWords, nameWords, across]

section Where

def whereWords : Option String → List Word
  | none => []
  | some c => nameWord [' '] "where" :: wordsFrom [' '] (groupText c).toList

theorem wordsFrom_where (c : Option String) : wordsFrom [] (whereText c).toList = whereWords c := by
  cases c with
  | none => exact wordsFrom_nil
  | some c =>
    have htext : (whereText (some c)).toList =
        ' ' :: ("where".toList ++ ' ' :: (groupText c).toList) := by
      simp [whereText, String.toList_append]
    rw [htext, wordsFrom_space_name (by simp) (groupText_head c)]
    rfl

theorem whereText_head (c : Option String) :
    ∀ x ∈ (whereText c).toList.head?, isWordChar x = false := by
  cases c with
  | none => rintro _ ⟨⟩
  | some c =>
    simp [whereText, String.toList_append]
    decide

theorem whereClause_whereWords {c : Option String} (h : ∀ t ∈ c, IsText t) :
    whereClause (whereWords c) = some c := by
  cases c with
  | none => rfl
  | some c => simp [whereClause, whereWords, atEnd_cons, condition_group (h c rfl)]

end Where

section Hops

def hopWords (hops : List Hop) : List Word :=
  hops.flatMap fun h => [markWord [] "->", nameWord [] h.className, markWord [] "[",
    nameWord [] h.relId, markWord [] "]"]

theorem wordsFrom_hops {hops : List Hop} (h : ∀ s ∈ hops, s.Printable) (rest : List Char) :
    wordsFrom [] ((hopsText hops).toList ++ rest) = hopWords hops ++ wordsFrom [] rest := by
  induction hops with
  | nil => rfl
  | cons s hops ih =>
    obtain ⟨hc, hr⟩ := h s List.mem_cons_self
    have htext : (hopsText (s :: hops)).toList ++ rest = "->".toList ++ (s.className.toList ++
        ("[".toList ++ (s.relId.toList ++ ("]".toList ++ ((hopsText hops).toList ++ rest))))) := by
      simp [hopsText, Hop.canonical, String.toList_append]
    rw [htext, wordsFrom_mark (by decide), wordsFrom_name hc (by rintro _ ⟨⟩; decide),
      wordsFrom_mark (by decide), wordsFrom_name hr (by rintro _ ⟨⟩; decide),
      wordsFrom_mark (by decide), ih fun s hs => h s (List.mem_cons_of_mem _ hs)]
    rfl

theorem hopsText_head (s : Hop) (hops : List Hop) (rest : List Char) :
    ∀ c ∈ ((hopsText (s :: hops)).toList ++ rest).head?, isWordChar c = false := by
  simp [hopsText, Hop.canonical, String.toList_append]
  decide

theorem punct_hopWords (s : Hop) (steps : List Hop) (ws : List Word) :
    ∃ tail, punct "->" (hopWords (s :: steps) ++ ws) = some tail := by
  simp [hopWords]

theorem hop_hopWords (s : Hop) (ws : List Word) : hop (hopWords [s] ++ ws) = some (s, ws) := by
  simp [hopWords, hop, afterBracket]

theorem hops_eq_of_hop {ws tail after : List Word} {s : Hop} (hp : punct "->" ws = some tail)
    (hs : hop ws = some (s, after)) :
    hops ws = (hops after).map fun (steps, after) => (s :: steps, after) := by
  rw [hops, hp]
  simp only
  split
  · rename_i e
    cases hs.symm.trans e
  · rename_i e
    cases hs.symm.trans e
    rfl

theorem hops_hopWords {ws : List Word} (hp : punct "->" ws = none) (steps : List Hop) :
    hops (hopWords steps ++ ws) = some (steps, ws) := by
  induction steps with
  | nil => rw [hopWords, List.flatMap_nil, List.nil_append, hops, hp]
  | cons s steps ih =>
    have hcons : hopWords (s :: steps) ++ ws = hopWords [s] ++ (hopWords steps ++ ws) := by
      simp [hopWords]
    obtain ⟨tail, ht⟩ := punct_hopWords s [] (hopWords steps ++ ws)
    rw [hcons, hops_eq_of_hop ht (hop_hopWords s _), ih]
    rfl

end Hops

/-- ` to target` at the end of a line. -/
theorem wordsFrom_to {target : String} (h : IsText target) :
    wordsFrom [] (" to ".toList ++ target.toList) =
      nameWord [' '] "to" :: wordsFrom [' '] target.toList :=
  wordsFrom_space_name (w := "to") (by simp) (head_of_trim h.trimmed)

section Event

variable {keyLetters : Option String} {label : String} {args : List Argument}

def eventWords (gap : List Char) (label : String) : Option String → List Word
  | none => [nameWord gap label]
  | some kl => [nameWord gap kl, markWord [] ":", nameWord [] label]

theorem eventText_head (hk : ∀ x ∈ keyLetters, IsName x) (hl : IsName label) (rest : List Char) :
    ∀ c ∈ ((eventText keyLetters label args).toList ++ rest).head?, isBlank c = false := by
  intro c hc
  cases keyLetters with
  | none =>
    rw [eventText, String.toList_append, List.append_assoc] at hc
    exact (hl.head _ c hc).1
  | some kl =>
    simp only [eventText, String.toList_append, List.append_assoc] at hc
    exact ((hk kl rfl).head _ c hc).1

theorem wordsFrom_event (hk : ∀ x ∈ keyLetters, IsName x) (hl : IsName label)
    (gap rest : List Char) :
    wordsFrom gap ((eventText keyLetters label args).toList ++ rest) =
      eventWords gap label keyLetters ++ wordsFrom [] ((argumentsText args).toList ++ rest) := by
  have hparen := argumentsText_head args rest
  cases keyLetters with
  | none =>
    rw [eventText, String.toList_append, List.append_assoc, wordsFrom_name hl hparen]
    rfl
  | some kl =>
    have hlabel := hl.head ((argumentsText args).toList ++ rest)
    have htext : (eventText (some kl) label args).toList ++ rest =
        kl.toList ++ (":".toList ++ (label.toList ++ ((argumentsText args).toList ++ rest))) := by
      simp [eventText, String.toList_append]
    rw [htext, wordsFrom_name (hk kl rfl) (by rintro _ ⟨⟩; decide),
      wordsFrom_mark_before (by decide) (fun c hc => Or.inr (hlabel c hc).2),
      wordsFrom_name hl hparen]
    rfl

theorem wordsFrom_arguments (gap : List Char) (args : List Argument) (rest : List Char) :
    ∃ ws, wordsFrom gap ((argumentsText args).toList ++ rest) = markWord gap "(" :: ws := by
  rw [argumentsText, groupText, String.toList_append, String.toList_append, List.append_assoc,
    List.append_assoc, wordsFrom_mark (by decide)]
  exact ⟨_, rfl⟩

theorem eventSpec_eventWords {ws after : List Word}
    (h : arguments (markWord [] "(" :: ws) = some (args, after)) (gap : List Char) (label : String)
    (keyLetters : Option String) :
    eventSpec (eventWords gap label keyLetters ++ markWord [] "(" :: ws) =
      some (keyLetters, label, args, after) := by
  cases keyLetters <;> simp [eventWords, eventSpec, h]

/-- An event with its arguments, sent to a target. -/
theorem eventSpec_signal {target : String} (hk : ∀ x ∈ keyLetters, IsName x) (hl : IsName label)
    (ha : ∀ a ∈ args, a.Printable) (ht : IsText target) (gap : List Char) :
    ∃ ws, wordsFrom gap ((eventText keyLetters label args).toList ++
          (" to ".toList ++ target.toList)) =
        eventWords gap label keyLetters ++ markWord [] "(" :: ws ∧
      eventSpec (eventWords gap label keyLetters ++ markWord [] "(" :: ws) =
        some (keyLetters, label, args, nameWord [' '] "to" :: wordsFrom [' '] target.toList) := by
  have hargs := arguments_canonical ha [] (" to ".toList ++ target.toList)
  obtain ⟨ws, hws⟩ := wordsFrom_arguments [] args (" to ".toList ++ target.toList)
  rw [hws, wordsFrom_to ht] at hargs
  exact ⟨ws, by rw [wordsFrom_event hk hl, hws], eventSpec_eventWords hargs gap label keyLetters⟩

end Event

section Target

variable {target : AssignTarget}

def targetWords (gap : List Char) : AssignTarget → List Word
  | .variable name => [nameWord gap name]
  | .attribute object name => [nameWord gap object, markWord [] ".", nameWord [] name]

theorem target_head (h : target.Printable) (rest : List Char) :
    ∀ c ∈ (target.canonical.toList ++ rest).head?, isBlank c = false := by
  intro c hc
  rcases target with name | ⟨object, name⟩
  · exact (IsName.head h rest c hc).1
  · simp only [AssignTarget.canonical, String.toList_append, List.append_assoc] at hc
    exact (h.1.head _ c hc).1

theorem wordsFrom_target (h : target.Printable) (gap : List Char) {rest : List Char}
    (hr : ∀ c ∈ rest.head?, isWordChar c = false) :
    wordsFrom gap (target.canonical.toList ++ rest) =
      targetWords gap target ++ wordsFrom [] rest := by
  rcases target with name | ⟨object, name⟩
  · exact wordsFrom_name h hr
  · obtain ⟨ho, hn⟩ := h
    have hname := hn.head rest
    rw [AssignTarget.canonical, String.toList_append, String.toList_append, List.append_assoc,
      List.append_assoc, wordsFrom_name ho (by rintro _ ⟨⟩; decide),
      wordsFrom_mark_before (by decide) (fun c hc => Or.inr (hname c hc).2), wordsFrom_name hn hr]
    rfl

theorem assignment_targetWords (gap : List Char) (target : AssignTarget) (ws : List Word) :
    assignment (targetWords gap target ++ markWord [' '] "=" :: ws) =
      (rest ws).map (.assign target) := by
  rcases target with name | ⟨object, name⟩ <;>
    cases hr : rest ws <;> simp [targetWords, assignment, assignTarget, hr]

end Target

end Grammar

end ExecutableUml.Action
