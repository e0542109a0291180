import ExecutableUml.Action.Rendering
import ExecutableUml.Proofs.Action.CallArguments

/-! The code of an expression has well nested brackets when its text has. Parentheses come and go on
the way: durations, attribute reads, emptiness tests and calls write new ones, clock readings drop
an empty pair, and the arguments of a call are read apart from each other. -/

namespace ExecutableUml.Action

open Text

def openedBy (c : Char) : Option Bracket :=
  if c = '(' then some .round else if c = '[' then some .square else none

def closedBy (c : Char) : Option Bracket :=
  if c = ')' then some .round else if c = ']' then some .square else none

/-- The groups open behind a mark, the innermost one first: one more, one less, or the same. A mark
closes the innermost group, and only one of its own kind. -/
def groupsBehind (groups : List Bracket) : Option Bracket → Option Bracket → Option (List Bracket)
  | some b, _ => some (b :: groups)
  | none, some b =>
    match groups with
    | [] => none
    | group :: outer => if group = b then some outer else none
  | none, none => some groups

def groupsAfter (groups : List Bracket) (s : List Char) : Option (List Bracket) :=
  s.foldlM (fun groups c => groupsBehind groups (openedBy c) (closedBy c)) groups

/-- Every bracket closes the innermost open one, which is of its kind, and none is left open. -/
def WellNested (text : String) : Prop := groupsAfter [] text.toList = some []

instance : DecidablePred WellNested := fun text =>
  inferInstanceAs (Decidable (groupsAfter [] text.toList = some []))

section Characters

variable {groups after : List Bracket} {s : List Char}

theorem groupsAfter_append (groups : List Bracket) (a b : List Char) :
    groupsAfter groups (a ++ b) = (groupsAfter groups a).bind fun g => groupsAfter g b :=
  List.foldlM_append

theorem groupsAfter_singleton (groups : List Bracket) (c : Char) :
    groupsAfter groups [c] = groupsBehind groups (openedBy c) (closedBy c) := by
  simp [groupsAfter]

theorem groupsBehind_frame {opened closed : Option Bracket}
    (h : groupsBehind groups opened closed = some after) (base : List Bracket) :
    groupsBehind (groups ++ base) opened closed = some (after ++ base) := by
  cases opened with
  | some b =>
    cases h
    rfl
  | none =>
    cases closed with
    | none =>
      cases h
      rfl
    | some b =>
      cases groups with
      | nil => cases h
      | cons group outer =>
        simp only [groupsBehind] at h
        split at h
        · rename_i hgroup
          cases h
          simp [groupsBehind, hgroup]
        · cases h

/-- Groups below those that the text closes stay as they are. -/
theorem groupsAfter_frame (h : groupsAfter groups s = some after) (base : List Bracket) :
    groupsAfter (groups ++ base) s = some (after ++ base) := by
  induction s generalizing groups with
  | nil =>
    cases h
    rfl
  | cons c s ih =>
    obtain ⟨next, hc, hs⟩ := Option.bind_eq_some_iff.1 h
    exact Option.bind_eq_some_iff.2 ⟨next ++ base, groupsBehind_frame hc base, ih hs⟩

def Flat (s : List Char) : Prop := ∀ c ∈ s, openedBy c = none ∧ closedBy c = none

/-- A class of characters that has no bracket. -/
theorem flat_of_class {p : Char → Bool} (hp : ['(', '[', ')', ']'].any p = false)
    (h : ∀ c ∈ s, p c = true) : Flat s := by
  intro c hc
  have hne : c ∉ ['(', '[', ')', ']'] := fun hmem => List.any_eq_false.1 hp c hmem (h c hc)
  simp only [List.mem_cons, List.not_mem_nil, or_false, not_or] at hne
  simp [openedBy, closedBy, hne]

theorem groupsAfter_flat (h : Flat s) (groups : List Bracket) :
    groupsAfter groups s = some groups := by
  induction s with
  | nil => rfl
  | cons c s ih =>
    obtain ⟨hc, hs⟩ := List.forall_mem_cons.1 h
    have hstep : groupsBehind groups (openedBy c) (closedBy c) = some groups := by
      rw [hc.1, hc.2]
      rfl
    exact Option.bind_eq_some_iff.2 ⟨groups, hstep, ih hs⟩

end Characters

/-- The text turns the open groups `groups`, whatever is open around them, into `after`. -/
def Turns (groups after : List Bracket) (text : String) : Prop :=
  ∀ base, groupsAfter (groups ++ base) text.toList = some (after ++ base)

/-- A text that leaves every open group as it is. -/
def Neutral (text : String) : Prop := Turns [] [] text

namespace Turns

variable {groups mid after : List Bracket} {a b : String}

theorem of_groupsAfter (h : groupsAfter groups a.toList = some after) : Turns groups after a :=
  groupsAfter_frame h

theorem append (ha : Turns groups mid a) (hb : Turns mid after b) : Turns groups after (a ++ b) := by
  intro base
  rw [String.toList_append, groupsAfter_append, ha base]
  exact hb base

theorem below (h : Turns groups after a) (outer : List Bracket) :
    Turns (groups ++ outer) (after ++ outer) a := by
  intro base
  rw [List.append_assoc, List.append_assoc]
  exact h (outer ++ base)

end Turns

namespace Neutral

variable {a b : String} {groups : List Bracket}

theorem of_flat (h : Flat a.toList) : Neutral a :=
  Turns.of_groupsAfter (groupsAfter_flat h [])

theorem turns (h : Neutral a) (groups : List Bracket) : Turns groups groups a := Turns.below h groups

theorem append (ha : Neutral a) (hb : Neutral b) : Neutral (a ++ b) := Turns.append ha hb

theorem wellNested (h : Neutral a) : WellNested a := h []

end Neutral

def Token.Plain (t : Token) : Prop := Lexeme t.kind t.chars ∧ t.kind ≠ .string

section Tokens

variable {groups : List Bracket} {t : Token} {ts us : List Token}

theorem Token.Plain.flat_of_ident (h : t.Plain) (ht : t.isIdent = true) : Flat t.chars := by
  obtain ⟨kind, chars⟩ := t
  obtain rfl : kind = .ident := by simpa [Token.isIdent] using ht
  cases h.1 with
  | ident hc hcs =>
    refine flat_of_class (p := isWordChar) (by decide) (List.forall_mem_cons.2 ⟨?_, hcs⟩)
    exact isWordChar_of_isWordStart hc

theorem Token.Plain.flat_of_number (h : t.Plain) (ht : t.kind = .number) : Flat t.chars := by
  obtain ⟨kind, chars⟩ := t
  obtain rfl : kind = .number := ht
  refine flat_of_class (p := fun c => c.isDigit || c == '.') (by decide) fun c hc => ?_
  cases h.1 with
  | whole hdigits => rw [hdigits c hc]; rfl
  | @decimal first d digits ds hwhole hfraction =>
    have hmem : c ∈ (first :: digits) ++ '.' :: d :: ds := hc
    rcases List.mem_append.1 hmem with hc | hc
    · rw [hwhole c hc]; rfl
    · rcases List.mem_cons.1 hc with rfl | hc
      · rfl
      · rw [hfraction c hc]; rfl

theorem brackets_of_not_punct (h : t.kind ≠ .punct) : t.opened = none ∧ t.closed = none := by
  have hnone : ∀ m, t.isPunct m = false := by
    intro m
    simp [Token.isPunct, h]
  simp [Token.opened, Token.closed, hnone]

theorem groupsAfter_of_flat (hflat : Flat t.chars) (h : t.opened = none ∧ t.closed = none)
    (groups : List Bracket) : groupsAfter groups t.chars = groupsBehind groups t.opened t.closed := by
  rw [groupsAfter_flat hflat, h.1, h.2]
  rfl

/-- The brackets of the text are its bracket tokens, unless it has strings. -/
theorem groupsAfter_token (h : t.Plain) (groups : List Bracket) :
    groupsAfter groups t.chars = groupsBehind groups t.opened t.closed := by
  obtain ⟨kind, chars⟩ := t
  obtain ⟨hlexeme, hkind⟩ := h
  cases hlexeme with
  | blank hb =>
    exact groupsAfter_of_flat (flat_of_class (by decide) hb)
      (brackets_of_not_punct TokenKind.noConfusion) groups
  | ident hc hcs =>
    exact groupsAfter_of_flat (Token.Plain.flat_of_ident ⟨.ident hc hcs, hkind⟩ rfl)
      (brackets_of_not_punct TokenKind.noConfusion) groups
  | whole hd =>
    exact groupsAfter_of_flat (Token.Plain.flat_of_number ⟨.whole hd, hkind⟩ rfl)
      (brackets_of_not_punct TokenKind.noConfusion) groups
  | decimal hc hd =>
    exact groupsAfter_of_flat (Token.Plain.flat_of_number ⟨.decimal hc hd, hkind⟩ rfl)
      (brackets_of_not_punct TokenKind.noConfusion) groups
  | string => exact absurd rfl hkind
  | @double c d hmark =>
    have hmarks : ∀ p ∈ doubleMarks,
        [p.1, p.2].all (fun c => openedBy c = none ∧ closedBy c = none) = true := by
      decide
    have hflat : Flat [c, d] := fun e he => of_decide_eq_true
      (List.all_eq_true.1 (hmarks _ (List.contains_iff_mem.1 hmark)) e he)
    have hnone : (⟨.punct, [c, d]⟩ : Token).opened = none ∧
        (⟨.punct, [c, d]⟩ : Token).closed = none := by
      simp [Token.opened, Token.closed, Token.isPunct]
    exact groupsAfter_of_flat hflat hnone groups
  | @single c =>
    have hmark : (⟨.punct, [c]⟩ : Token).opened = openedBy c ∧
        (⟨.punct, [c]⟩ : Token).closed = closedBy c := by
      simp [Token.opened, Token.closed, Token.isPunct, openedBy, closedBy]
    rw [groupsAfter_singleton, hmark.1, hmark.2]

theorem nested_cons_iff {groups : List Bracket} :
    nested groups (t :: ts) = true ↔
      ∃ after, groupsBehind groups t.opened t.closed = some after ∧ nested after ts = true := by
  rw [nested]
  cases t.opened with
  | some b => simp [groupsBehind]
  | none =>
    cases t.closed with
    | none => simp [groupsBehind]
    | some b =>
      cases groups with
      | nil => simp [groupsBehind]
      | cons group outer => simp [groupsBehind, and_assoc]

/-- Brackets nested in the text are nested in its tokens. -/
theorem nested_of_groupsAfter (hplain : ∀ t ∈ ts, t.Plain)
    (h : groupsAfter groups (spell ts) = some []) : nested groups ts = true := by
  induction ts generalizing groups with
  | nil =>
    cases h
    rfl
  | cons t ts ih =>
    obtain ⟨ht, hts⟩ := List.forall_mem_cons.1 hplain
    rw [spell, List.flatMap_cons, groupsAfter_append, groupsAfter_token ht] at h
    obtain ⟨after, hstep, hrest⟩ := Option.bind_eq_some_iff.1 h
    exact nested_cons_iff.2 ⟨after, hstep, ih hts hrest⟩

def Bracketless (ts : List Token) : Prop := ∀ t ∈ ts, t.opened = none ∧ t.closed = none

theorem nested_bracketless (h : Bracketless us) (groups : List Bracket) (ts : List Token) :
    nested groups (us ++ ts) = nested groups ts := by
  induction us with
  | nil => rfl
  | cons u us ih =>
    obtain ⟨⟨hopened, hclosed⟩, hus⟩ := List.forall_mem_cons.1 h
    rw [List.cons_append, nested]
    simp only [hopened, hclosed]
    exact ih hus

theorem nested_append_bracketless (h : Bracketless us) (groups : List Bracket) (ts : List Token) :
    nested groups (ts ++ us) = nested groups ts := by
  induction ts generalizing groups with
  | nil => rw [List.nil_append, ← List.append_nil us, nested_bracketless h]
  | cons t ts ih =>
    rw [Bool.eq_iff_iff, List.cons_append, nested_cons_iff, nested_cons_iff]
    simp only [ih]

theorem bracketless_bare (h : Bare ts) : Bracketless ts := by
  intro t ht
  rcases h t ht with hb | hi | hp
  · exact brackets_of_not_punct (by rw [Token.isBlank_iff.1 hb]; exact TokenKind.noConfusion)
  · rw [Token.isIdent, beq_iff_eq] at hi
    exact brackets_of_not_punct (by rw [hi]; exact TokenKind.noConfusion)
  · simp [Token.opened, Token.closed, Token.isPunct_of_isPunct hp]

/-- A group is nested in itself, and so is what stands behind it; `within` are the groups opened
inside of it. -/
theorem nested_closeParen {depth : Nat} {within groups : List Bracket} {inside rest : List Token}
    (hdepth : within.count .round = depth) (h : nested (within ++ .round :: groups) ts = true)
    (hclose : closeParen depth ts = some (inside, rest)) :
    nested within inside = true ∧ nested groups rest = true := by
  induction ts generalizing depth within inside with
  | nil => cases hclose
  | cons t ts ih =>
    simp only [closeParen, Token.isPunct_close, Token.isPunct_open] at hclose
    rcases nested_cons h with ⟨b, hopened, hts⟩ | ⟨hopened, hclosed, hts⟩ |
      ⟨b, outer, hopened, hclosed, hgroups, hts⟩
    · rw [hopened, Token.closed_of_opened hopened] at hclose
      obtain ⟨found, hfound, he⟩ := Option.map_eq_some_iff.1 hclose
      cases he
      have hcount : (b :: within).count .round =
          if (some b == some Bracket.round) = true then depth + 1 else depth := by
        cases b <;> simp [hdepth]
      obtain ⟨hinside, hrest⟩ := ih hcount hts hfound
      exact ⟨nested_cons_iff.2 ⟨b :: within, by rw [hopened]; rfl, hinside⟩, hrest⟩
    · rw [hopened, hclosed] at hclose
      obtain ⟨found, hfound, he⟩ := Option.map_eq_some_iff.1 hclose
      cases he
      obtain ⟨hinside, hrest⟩ := ih hdepth hts hfound
      exact ⟨nested_cons_iff.2 ⟨within, by rw [hopened, hclosed]; rfl, hinside⟩, hrest⟩
    · rw [hopened, hclosed] at hclose
      cases within with
      | nil =>
        obtain ⟨rfl, rfl⟩ := List.cons.inj hgroups
        cases hdepth
        cases hclose
        exact ⟨rfl, hts⟩
      | cons group within =>
        obtain ⟨rfl, rfl⟩ := List.cons.inj hgroups
        have hstays : ((some group == some Bracket.round) && depth == 0) = false := by
          subst hdepth
          cases group <;> simp
        have hcount : within.count .round =
            if (some group == some Bracket.round) = true then depth - 1 else depth := by
          subst hdepth
          cases group <;> simp
        rw [hstays] at hclose
        obtain ⟨found, hfound, he⟩ := Option.map_eq_some_iff.1 hclose
        cases he
        obtain ⟨hinside, hrest⟩ := ih hcount hts hfound
        refine ⟨nested_cons_iff.2 ⟨within, ?_, hinside⟩, hrest⟩
        rw [hopened, hclosed]
        exact if_pos rfl

theorem length_groupsBehind {after : List Bracket}
    (h : groupsBehind groups t.opened t.closed = some after) :
    t.depthAfter groups.length = after.length := by
  rw [Token.depthAfter]
  generalize t.opened = opened, t.closed = closed at *
  cases opened with
  | some b =>
    cases h
    rfl
  | none =>
    cases closed with
    | none =>
      cases h
      rfl
    | some b =>
      cases groups with
      | nil => cases h
      | cons group outer =>
        rw [groupsBehind] at h
        split at h
        · cases h
          rfl
        · cases h

/-- The parts of a list of arguments are nested each in itself; `within` are the groups open where
the first one starts. -/
theorem nested_splitArguments {within : List Bracket} (h : nested within ts = true) :
    ∃ first others, splitArguments within.length ts = first :: others ∧
      nested within first = true ∧ ∀ part ∈ others, nested [] part = true := by
  induction ts generalizing within with
  | nil => exact ⟨[], [], rfl, h, List.forall_mem_nil _⟩
  | cons t ts ih =>
    by_cases hcomma : (t.isPunct "," && within.length == 0) = true
    · obtain ⟨hmark, hnone⟩ := Bool.and_eq_true_iff.1 hcomma
      obtain rfl : within = [] := List.length_eq_zero_iff.1 (beq_iff_eq.1 hnone)
      have hbare : t.opened = none ∧ t.closed = none := by
        simp [Token.opened, Token.closed, Token.isPunct_of_isPunct hmark]
      rw [nested, hbare.1, hbare.2] at h
      obtain ⟨first, others, hsplit, hfirst, hothers⟩ := ih h
      refine ⟨[], first :: others, ?_, rfl, List.forall_mem_cons.2 ⟨hfirst, hothers⟩⟩
      rw [splitArguments, if_pos hcomma, hsplit]
    · rw [Bool.not_eq_true] at hcomma
      obtain ⟨after, hstep, hts⟩ := nested_cons_iff.1 h
      obtain ⟨first, others, hsplit, hfirst, hothers⟩ := ih hts
      refine ⟨t :: first, others, ?_, nested_cons_iff.2 ⟨after, hstep, hfirst⟩, hothers⟩
      rw [splitArguments_cons hcomma, length_groupsBehind hstep, hsplit, List.modifyHead_cons]

theorem count_of_nested (h : nested groups ts = true) :
    groups.count .round + ts.countP (·.isPunct "(") = ts.countP (·.isPunct ")") := by
  induction ts generalizing groups with
  | nil =>
    cases groups with
    | nil => rfl
    | cons b groups => cases h
  | cons t ts ih =>
    rw [List.countP_cons, List.countP_cons, Token.isPunct_open, Token.isPunct_close]
    rcases nested_cons h with ⟨b, hopened, hts⟩ | ⟨hopened, hclosed, hts⟩ |
      ⟨b, outer, hopened, hclosed, rfl, hts⟩
    · have hcount := ih hts
      rw [hopened, Token.closed_of_opened hopened]
      cases b <;> simp at hcount ⊢ <;> omega
    · have hcount := ih hts
      rw [hopened, hclosed]
      simpa using hcount
    · have hcount := ih hts
      rw [hopened, hclosed]
      cases b <;> simp at hcount ⊢ <;> omega

theorem bracketless_of_blank (h : ∀ t ∈ ts, t.isBlank = true) : Bracketless ts :=
  bracketless_bare fun t ht => .inl (h t ht)

/-- A nested text keeps all of its brackets when its terminators go. -/
theorem nested_fragment (h : nested [] ts = true) : nested [] (fragment ts) = true := by
  have hblanks : Bracketless (ts.takeWhile Token.isBlank) :=
    bracketless_of_blank (List.all_eq_true.1 List.all_takeWhile)
  rw [← List.takeWhile_append_dropWhile (p := Token.isBlank) (l := ts),
    nested_bracketless hblanks] at h
  rw [fragment]
  generalize ts.dropWhile Token.isBlank = us at *
  obtain ⟨tail, hus, htail⟩ := dropTrailing_takes (fun t => t.isBlank || t.isPunct ";") us
  have hflat : Bracketless tail := by
    intro t ht
    rcases Bool.or_eq_true_iff.1 (htail t ht) with hb | hp
    · exact bracketless_of_blank (List.forall_mem_singleton.2 hb) t List.mem_cons_self
    · simp [Token.opened, Token.closed, Token.isPunct_of_isPunct hp]
  rw [hus, nested_append_bracketless hflat] at h
  have hbalanced :
      endsUnbalanced (dropTrailing (fun t => t.isBlank || t.isPunct ";") us) = false := by
    have hcount := count_of_nested h
    rw [List.count_nil, Nat.zero_add] at hcount
    rw [endsUnbalanced, hcount, decide_eq_false (Nat.lt_irrefl _), Bool.and_false]
  simpa only [dropTerminators, hbalanced, Bool.and_false, Bool.false_eq_true, if_false] using h

theorem nested_unpadded (h : nested [] ts = true) : nested [] (unpadded ts) = true := by
  obtain ⟨before, after, hts, hbefore, hafter⟩ := unpadded_takes ts
  rwa [hts, nested_bracketless (bracketless_of_blank hbefore),
    nested_append_bracketless (bracketless_of_blank hafter)] at h

theorem nested_argumentSource {part value : List Token} {name : Option String}
    (h : nested [] part = true) (hsource : argumentSource part = some (name, value)) :
    nested [] value = true := by
  unfold argumentSource at hsource
  split at hsource
  · cases hsource
  · rename_i ident colon third more hwords
    split at hsource
    · rename_i hnamed
      simp only [Bool.and_eq_true] at hnamed
      cases hsource
      obtain ⟨gap, rest, rfl, hgap, hrest⟩ := significant_takes hwords
      obtain ⟨gap', rest', rfl, hgap', -⟩ := significant_takes hrest
      rw [behind_colon hgap hnamed.1 hgap' hnamed.2]
      have hident : Bracketless [ident] := bracketless_bare (.cons (.inr (.inl hnamed.1)) .nil)
      have hcolon : Bracketless [colon] := by
        refine List.forall_mem_singleton.2 ?_
        simp [Token.opened, Token.closed, Token.isPunct_of_isPunct hnamed.2]
      rw [nested_bracketless (bracketless_of_blank hgap), ← List.singleton_append,
        nested_bracketless hident, nested_bracketless (bracketless_of_blank hgap'),
        ← List.singleton_append, nested_bracketless hcolon] at h
      exact nested_unpadded h
    · cases hsource
      exact h
  · cases hsource
    exact h

theorem nested_argumentParts {inside : List Token} (h : nested [] inside = true) :
    ∀ a ∈ argumentParts inside, nested [] a.2 = true := by
  intro a ha
  rw [argumentParts_eq] at ha
  obtain ⟨source, hsource, rfl⟩ := List.mem_map.1 ha
  obtain ⟨part, hpart, hvalue⟩ := List.mem_filterMap.1 hsource
  obtain ⟨first, others, hsplit, hfirst, hothers⟩ := nested_splitArguments h
  have hnested : nested [] part = true := by
    rw [List.length_nil] at hsplit
    rw [hsplit] at hpart
    rcases List.mem_cons.1 hpart with rfl | hpart
    · exact hfirst
    · exact hothers part hpart
  exact nested_fragment (nested_argumentSource hnested hvalue)

theorem nested_open (h : t.isPunct "(" = true) (groups : List Bracket) (ts : List Token) :
    nested groups (t :: ts) = nested (.round :: groups) ts := by
  have hopened : t.opened = some .round := by rwa [Token.isPunct_open, beq_iff_eq] at h
  simp only [nested, hopened]

theorem nested_close (h : t.isPunct ")" = true) (groups : List Bracket) (ts : List Token) :
    nested (.round :: groups) (t :: ts) = nested groups ts := by
  have hopened : t.opened = none := by simp [Token.opened, Token.isPunct_of_isPunct h]
  have hclosed : t.closed = some .round := by rwa [Token.isPunct_close, beq_iff_eq] at h
  simp [nested, hopened, hclosed]

/-- The arguments of a call are nested each in itself, and so is what stands behind the call. -/
theorem nested_call {o : Token} {after inside rest : List Token} (ho : o.isPunct "(" = true)
    (hclose : closeParen 0 after = some (inside, rest)) (h : nested groups (o :: after) = true) :
    nested groups rest = true ∧ ∀ vs ∈ (argumentParts inside).map Prod.snd, nested [] vs = true := by
  rw [nested_open ho] at h
  have hgroup : nested ([] ++ .round :: groups) after = true := h
  obtain ⟨hinside, hrest⟩ := nested_closeParen rfl hgroup hclose
  exact ⟨hrest, List.forall_mem_map.2 (nested_argumentParts hinside)⟩

/-- A construct that is not a token as it stands leaves the open groups as they are, and what stands
inside of it is nested in itself. -/
theorem reads_nested {c : Construct × List Token} (hreads : Reads t ts c)
    (h : nested groups (t :: ts) = true) :
    c = (.copy t, ts) ∨ (nested groups c.2 = true ∧ ∀ vs ∈ c.1.inner, nested [] vs = true) := by
  have hbehind : t.opened = none ∧ t.closed = none → nested groups ts = true := by
    intro ht
    rwa [← List.singleton_append, nested_bracketless (List.forall_mem_singleton.2 ht)] at h
  have hident : t.isIdent = true → nested groups ts = true := fun ht =>
    hbehind (bracketless_bare (.cons (.inr (.inl ht)) .nil) t List.mem_cons_self)
  cases hreads with
  | copy => exact .inl rfl
  | name ht => exact .inr ⟨hident ht, List.forall_mem_nil _⟩
  | duration ht hts htaken =>
    have hrest := hbehind (brackets_of_not_punct (by rw [ht]; exact TokenKind.noConfusion))
    rw [hts, nested_bracketless (bracketless_bare htaken)] at hrest
    exact .inr ⟨hrest, List.forall_mem_nil _⟩
  | clock ht hts =>
    have hrest := hident ht
    rcases hts with rfl | ⟨o, c, rfl, ho, hc⟩
    · exact .inr ⟨hrest, List.forall_mem_nil _⟩
    · rw [nested_open ho, nested_close hc] at hrest
      exact .inr ⟨hrest, List.forall_mem_nil _⟩
  | @test kind gap operand rest ht hts hgap hoperand =>
    have hrest := hident ht
    have htaken : Bare (gap :: operand) := .cons (.inl hgap) hoperand
    rw [hts, ← List.cons_append, nested_bracketless (bracketless_bare htaken)] at hrest
    refine .inr ⟨hrest, List.forall_mem_singleton.2 ?_⟩
    rw [← List.append_nil operand, nested_bracketless (bracketless_bare hoperand)]
    rfl
  | @bridge colons op o after inside rest ht hts hcolons hop ho hclose =>
    have hafter := hident ht
    have hopening : Bracketless [colons, op] := by
      refine List.forall_mem_cons.2 ⟨?_, bracketless_bare (.cons (.inr (.inl hop)) .nil)⟩
      simp [Token.opened, Token.closed, Token.isPunct_of_isPunct hcolons]
    rw [hts, show colons :: op :: o :: after = [colons, op] ++ o :: after from rfl,
      nested_bracketless hopening] at hafter
    exact .inr (nested_call ho hclose hafter)
  | @function name o after inside rest ht hts hname ho hclose =>
    have hafter := hbehind (by simp [Token.opened, Token.closed, Token.isPunct_of_isPunct ht])
    have hopening : Bracketless [name] := bracketless_bare (.cons (.inr (.inl hname)) .nil)
    rw [hts, ← List.singleton_append, nested_bracketless hopening] at hafter
    exact .inr (nested_call ho hclose hafter)
  | member ht hts htaken hfields =>
    have hrest := hident ht
    rw [hts, nested_bracketless (bracketless_bare htaken)] at hrest
    exact .inr ⟨hrest, List.forall_mem_nil _⟩

end Tokens

section Code

theorem Neutral.of_wellNested {a : String} (h : WellNested a) : Neutral a := Turns.of_groupsAfter h

theorem Token.Plain.neutral {t : Token} (h : t.Plain) (ht : t.isIdent = true) : Neutral t.text := by
  refine .of_flat ?_
  rw [Token.text, String.toList_ofList]
  exact h.flat_of_ident ht

theorem IsName.neutral {x : String} (h : IsName x) : Neutral x := by
  have hmem : (⟨.ident, x.toList⟩ : Token) ∈ Action.tokens x.toList := by
    rw [h.tokens]
    exact List.mem_cons_self
  have hplain : (⟨.ident, x.toList⟩ : Token).Plain :=
    ⟨lexeme_of_mem_tokens hmem, TokenKind.noConfusion⟩
  exact .of_flat (hplain.flat_of_ident rfl)

theorem turns_open : Turns [] [.round] "(" := .of_groupsAfter (by decide)

theorem turns_close : Turns [.round] [] ")" := .of_groupsAfter (by decide)

theorem dotted_neutral {receiver field : String} (hr : Neutral receiver) (hf : Neutral field) :
    Neutral (dotted receiver field) :=
  (hr.append (.of_wellNested (by decide))).append hf

theorem attributeRead_neutral {receiver field : String} (hr : Neutral receiver)
    (hf : Neutral field) : Neutral (attributeRead receiver field) := by
  have hopen : Turns [] [.round] ".get_attr('" := .of_groupsAfter (by decide)
  have hclose : Turns [.round] [] "')" := .of_groupsAfter (by decide)
  exact ((Turns.append hr hopen).append (hf.turns _)).append hclose

theorem access_neutral {receiver : String} {s : Selector} (hr : Neutral receiver)
    (hs : Neutral s.field) : Neutral (access receiver s) := by
  unfold access
  split
  · exact dotted_neutral hr hs
  · exact attributeRead_neutral hr hs

variable {scope : Scope} (howner : Neutral scope.ownerExpr)

include howner

theorem nameText_neutral {text : String} (h : Neutral text) : Neutral (scope.nameText text) := by
  unfold Scope.nameText
  dsimp only
  split
  · rename_i hlowered
    rcases hlowered with hl | hl | hl <;> rw [hl] <;> exact .of_wellNested (by decide)
  split
  · exact .of_wellNested (by decide)
  split
  · exact .of_wellNested (by decide)
  split
  · exact howner
  split
  · exact .of_wellNested (by decide)
  split
  · exact .of_wellNested (by decide)
  split
  · exact .of_wellNested (by decide)
  · exact h

theorem firstAccess_neutral {head : String} {s : Selector} (hhead : Neutral head)
    (hs : Neutral s.field) : Neutral (scope.firstAccess head s).1.text := by
  have hpayload : Neutral ("payload.get('" ++ s.field ++ "')") := by
    have hopen : Turns [] [.round] "payload.get('" := .of_groupsAfter (by decide)
    have hclose : Turns [.round] [] "')" := .of_groupsAfter (by decide)
    exact (hopen.append (hs.turns _)).append hclose
  have hkwargs : Neutral ("kwargs.get('" ++ s.field ++ "')") := by
    have hopen : Turns [] [.round] "kwargs.get('" := .of_groupsAfter (by decide)
    have hclose : Turns [.round] [] "')" := .of_groupsAfter (by decide)
    exact (hopen.append (hs.turns _)).append hclose
  unfold Scope.firstAccess
  split
  · exact hpayload
  split
  · exact hkwargs
  split
  · exact access_neutral (.of_wellNested (by decide)) hs
  split
  · exact access_neutral howner hs
  split
  · exact dotted_neutral hhead hs
  split
  · exact dotted_neutral hhead hs
  split
  · split
    · exact dotted_neutral hhead hs
    · exact attributeRead_neutral hhead hs
  · exact attributeRead_neutral hhead hs

omit howner in
theorem furtherAccess_neutral (plain : Bool) {receiver : String} {further : List Selector}
    (hr : Neutral receiver) (hfields : ∀ s ∈ further, Neutral s.field) :
    Neutral (further.foldl (furtherAccess plain) receiver) := by
  induction further generalizing receiver with
  | nil => exact hr
  | cons s further ih =>
    obtain ⟨hs, hfurther⟩ := List.forall_mem_cons.1 hfields
    rw [List.foldl_cons]
    refine ih ?_ hfurther
    unfold furtherAccess
    split
    · exact dotted_neutral hr hs
    · exact attributeRead_neutral hr hs

theorem memberAccess_neutral {head : String} {first : Selector} {further : List Selector}
    (hhead : Neutral head) (hfields : ∀ s ∈ first :: further, Neutral s.field) :
    Neutral (scope.memberAccess head first further).text := by
  obtain ⟨hfirst, hfurther⟩ := List.forall_mem_cons.1 hfields
  have hreceiver := firstAccess_neutral howner hhead hfirst
  rw [Scope.memberAccess]
  generalize scope.firstAccess head first = found at *
  exact furtherAccess_neutral found.2 hreceiver hfurther

omit howner

theorem digits_neutral (n : Nat) : Neutral (toString n) := by
  refine .of_flat (flat_of_class (p := Char.isDigit) (by decide) fun c hc => ?_)
  have hmem : c ∈ Nat.toDigits 10 n := by simpa [toString, Nat.toList_repr] using hc
  exact Nat.isDigit_of_mem_toDigits (by decide) (by decide) hmem

theorem duration_neutral {amount : String} (h : Neutral amount) (seconds : Nat) :
    Neutral ("(" ++ amount ++ " * " ++ toString seconds ++ ")") := by
  have hstar : Neutral " * " := .of_wellNested (by decide)
  exact (((turns_open.append (h.turns _)).append (hstar.turns _)).append
    ((digits_neutral seconds).turns _)).append turns_close

theorem clock_neutral (reading : ClockReading) : Neutral reading.text := by
  cases reading <;> exact .of_wellNested (by decide)

/-- The operand of a cardinality stands twice in one group. -/
theorem test_neutral (kind : EmptinessTest) {operand : String} (h : Neutral operand) :
    Neutral (kind.text operand) := by
  cases kind with
  | notEmpty => exact h.append (.of_wellNested (by decide))
  | empty => exact h.append (.of_wellNested (by decide))
  | cardinality =>
    have hopen : Turns [] [.round] "len(" := .of_groupsAfter (by decide)
    have hif : Neutral " if " := .of_wellNested (by decide)
    have hclose : Turns [.round] [] " else [])" := .of_groupsAfter (by decide)
    exact (((hopen.append (h.turns _)).append (hif.turns _)).append (h.turns _)).append hclose

def Callee.Flat : Callee → Prop
  | .bridge entity operation => Neutral entity ∧ Neutral operation
  | .function name => Neutral name

theorem opening_turns {callee : Callee} (h : callee.Flat) : Turns [] [.round] callee.opening := by
  have hquote : Neutral "'" := .of_wellNested (by decide)
  cases callee with
  | bridge entity operation =>
    have hopen : Turns [] [.round] "rt.bridge('" := .of_groupsAfter (by decide)
    have hcomma : Neutral "', '" := .of_wellNested (by decide)
    exact (((hopen.append (h.1.turns _)).append (hcomma.turns _)).append (h.2.turns _)).append
      (hquote.turns _)
  | function name =>
    have hopen : Turns [] [.round] "rt.call_function('" := .of_groupsAfter (by decide)
    exact (hopen.append (Neutral.turns h _)).append (hquote.turns _)

theorem renderActuals_neutral (scope : Scope) {args : List (Option String × List Token)}
    (hnames : ∀ a ∈ args, ∀ name ∈ a.1, Neutral name)
    (hvalues : ∀ a ∈ args, Neutral (renderPieces scope (pieces a.2)).text) :
    Neutral (renderActuals scope (args.map fun a => .mk a.1 (pieces a.2))).text := by
  induction args with
  | nil => exact fun base => rfl
  | cons a args ih =>
    obtain ⟨hname, hnames⟩ := List.forall_mem_cons.1 hnames
    obtain ⟨hvalue, hvalues⟩ := List.forall_mem_cons.1 hvalues
    have hcomma : Neutral ", " := .of_wellNested (by decide)
    refine Neutral.append ?_ (ih hnames hvalues)
    obtain ⟨name, value⟩ := a
    cases name with
    | none => exact hcomma.append hvalue
    | some name =>
      have hequals : Neutral "=" := .of_wellNested (by decide)
      exact ((hcomma.append (hname name rfl)).append hequals).append hvalue

theorem argumentSource_name {part value : List Token} {name : String}
    (h : argumentSource part = some (some name, value)) :
    ∃ u ∈ part, u.isIdent = true ∧ name = u.text := by
  unfold argumentSource at h
  split at h
  · cases h
  · rename_i ident colon third more hwords
    split at h
    · rename_i hnamed
      simp only [Bool.and_eq_true] at hnamed
      cases h
      have hmem : ident ∈ significant part := hwords ▸ List.mem_cons_self
      exact ⟨ident, (List.mem_filter.1 hmem).1, hnamed.1, rfl⟩
    · cases h
  · cases h

theorem argumentParts_names {inside : List Token} (hplain : ∀ t ∈ inside, t.Plain) :
    ∀ a ∈ argumentParts inside, ∀ name ∈ a.1, Neutral name := by
  intro a ha name hname
  rw [argumentParts_eq] at ha
  obtain ⟨source, hsource, rfl⟩ := List.mem_map.1 ha
  obtain ⟨part, hpart, hvalue⟩ := List.mem_filterMap.1 hsource
  obtain ⟨found, value⟩ := source
  cases hname
  obtain ⟨u, hu, hident, rfl⟩ := argumentSource_name hvalue
  exact (hplain u (((parted_splitArguments 0 inside).isInfix hpart).subset hu)).neutral hident

/-- The arguments of a call stand in one group with its callee. -/
theorem call_neutral {callee : Callee} {after inside rest : List Token} (hcallee : callee.Flat)
    (hclose : closeParen 0 after = some (inside, rest)) (hplain : ∀ t ∈ after, t.Plain)
    (hinner : ∀ vs ∈ (Construct.call callee (argumentParts inside)).inner,
      Neutral (renderPieces scope (pieces vs)).text) :
    Neutral ((Construct.call callee (argumentParts inside)).piece.render scope).text := by
  obtain ⟨close, hafter, -⟩ := closeParen_takes hclose
  have hinside : ∀ t ∈ inside, t.Plain := fun t ht =>
    hplain t (by rw [hafter]; exact List.mem_append_left _ ht)
  have hargs := renderActuals_neutral scope (argumentParts_names hinside)
    fun a ha => hinner a.2 (List.mem_map_of_mem ha)
  rw [Construct.piece, Piece.render]
  exact ((opening_turns hcallee).append (hargs.turns _)).append turns_close

include howner

/-- The code of a construct leaves every open group as it is, if what stands inside of it does. -/
theorem reads_neutral {t : Token} {ts : List Token} {c : Construct × List Token}
    (hreads : Reads t ts c) (hplain : ∀ u ∈ t :: ts, u.Plain)
    (hinner : ∀ vs ∈ c.1.inner, Neutral (renderPieces scope (pieces vs)).text) :
    c = (.copy t, ts) ∨ Neutral (c.1.piece.render scope).text := by
  obtain ⟨ht, hts⟩ := List.forall_mem_cons.1 hplain
  cases hreads with
  | copy => exact .inl rfl
  | name hident =>
    simp only [Construct.piece, Piece.render]
    exact .inr (nameText_neutral howner (ht.neutral hident))
  | duration hnumber =>
    have hamount : Neutral t.text := by
      refine .of_flat ?_
      rw [Token.text, String.toList_ofList]
      exact ht.flat_of_number hnumber
    refine .inr ?_
    rw [Construct.piece, Piece.render]
    exact duration_neutral hamount _
  | @clock reading => exact .inr (clock_neutral reading)
  | @test kind gap operand =>
    refine .inr ?_
    rw [Construct.piece, Piece.render]
    exact test_neutral kind (hinner operand List.mem_cons_self)
  | bridge hident heq hcolons hop ho hclose =>
    subst heq
    obtain ⟨-, hplainOp, -, hafter⟩ := by simpa only [List.forall_mem_cons] using hts
    exact .inr (call_neutral ⟨ht.neutral hident, hplainOp.neutral hop⟩ hclose hafter hinner)
  | @function name o after inside rest hmark heq hname ho hclose =>
    subst heq
    obtain ⟨hplainName, -, hafter⟩ := by simpa only [List.forall_mem_cons] using hts
    have hcallee : (Callee.function name.text).Flat := hplainName.neutral hname
    exact .inr (call_neutral hcallee hclose hafter hinner)
  | member hident heq htaken hfields =>
    refine .inr (memberAccess_neutral howner (ht.neutral hident) fun s hs => ?_)
    obtain ⟨u, hu, hfield, hs⟩ := hfields s hs
    rw [hs]
    exact (hts u (by rw [heq]; exact List.mem_append_left _ hu)).neutral hfield

/-- The code of nested tokens closes the groups that they close. The induction is on the number of
tokens: what stands inside of a construct and what follows it are shorter. -/
theorem renderPieces_turns {groups : List Bracket} {ts : List Token}
    (hplain : ∀ t ∈ ts, t.Plain) (h : nested groups ts = true) :
    Turns groups [] (renderPieces scope (pieces ts)).text := by
  induction hn : ts.length using Nat.strongRecOn generalizing ts groups with
  | ind n ih =>
    subst hn
    cases ts with
    | nil =>
      rw [pieces_nil]
      cases groups with
      | nil => exact fun base => rfl
      | cons b groups => cases h
    | cons t ts =>
      obtain ⟨hrest, hinner⟩ := construct_isInfix t ts
      have hfits := construct_fits t ts
      have hreads := construct_reads t ts
      rw [pieces_cons, renderPieces]
      generalize construct t ts = c at *
      have hsub : ∀ vs, vs <:+: ts → ∀ u ∈ vs, u.Plain := fun vs hvs u hu =>
        hplain u (List.mem_cons_of_mem t (hvs.subset hu))
      have hcopy : c = (.copy t, ts) → Turns groups []
          ((c.1.piece.render scope).append (renderPieces scope (pieces c.2))).text := by
        rintro rfl
        obtain ⟨after, hstep, hts⟩ := nested_cons_iff.1 h
        have htoken : Turns groups after t.text := by
          refine .of_groupsAfter ?_
          rw [Token.text, String.toList_ofList, groupsAfter_token (hplain t List.mem_cons_self)]
          exact hstep
        exact htoken.append (ih _ (Nat.lt_succ_self _) (hsub ts (List.infix_refl ts)) hts rfl)
      rcases reads_nested hreads h with hc | ⟨hnested, hinside⟩
      · exact hcopy hc
      · have hneutral : ∀ vs ∈ c.1.inner, Neutral (renderPieces scope (pieces vs)).text :=
          fun vs hvs => ih _ (Nat.lt_succ_of_le (hfits.2 vs hvs)) (hsub vs (hinner vs hvs))
            (hinside vs hvs) rfl
        rcases reads_neutral howner hreads hplain hneutral with hc | hpiece
        · exact hcopy hc
        · exact (hpiece.turns groups).append
            (ih _ (Nat.lt_succ_of_le hfits.1) (hsub c.2 hrest) hnested rfl)

end Code

theorem groupsAfter_trim (groups : List Bracket) (s : List Char) :
    groupsAfter groups (trim s) = groupsAfter groups s := by
  have hblank : ∀ blanks : List Char, (∀ c ∈ blanks, isBlank c = true) → Flat blanks :=
    fun _ h => flat_of_class (by decide) h
  obtain ⟨after, hsplit, hafter⟩ := trimEnd_takes (trimStart s)
  have hstart : groupsAfter groups s = groupsAfter groups (trimStart s) := by
    conv => lhs; rw [← List.takeWhile_append_dropWhile (p := isBlank) (l := s)]
    rw [groupsAfter_append,
      groupsAfter_flat (hblank _ (List.all_eq_true.1 List.all_takeWhile)), Option.bind_some,
      trimStart]
  rw [hstart, hsplit, ← trim, groupsAfter_append]
  cases groupsAfter groups (trim s) with
  | none => rfl
  | some g => exact (groupsAfter_flat (hblank after hafter) g).symm

/-- An expression without string literals whose brackets are well nested has code whose brackets
are, in every scope whose owner has a name. -/
theorem expression_keeps_nesting (scope : Scope) (text : String) (howner : IsName scope.ownerExpr)
    (hstrings : NoStrings (tokens (trim text.toList))) (hnested : WellNested text) :
    WellNested (scope.expression text).text := by
  have hplain : ∀ t ∈ tokens (trim text.toList), t.Plain := by
    intro t ht
    refine ⟨lexeme_of_mem_tokens ht, ?_⟩
    simpa [Token.isString] using hstrings t ht
  have htokens : nested [] (tokens (trim text.toList)) = true := by
    refine nested_of_groupsAfter hplain ?_
    rw [spell_tokens, groupsAfter_trim]
    exact hnested
  have hfragment : ∀ t ∈ fragment (tokens (trim text.toList)), t.Plain :=
    fun t ht => hplain t ((fragment_isInfix _).subset ht)
  have hcode : Neutral (scope.expression text).text :=
    renderPieces_turns howner.neutral hfragment (nested_fragment htokens)
  exact hcode.wellNested

theorem bridge_keeps_nesting :
    WellNested "A::op(n: (cardinality xs), [self.a.b, 5 hours]) + CurrentTime();" ∧
      WellNested ((Scope.ofOwner .empty none "self").expression
        "A::op(n: (cardinality xs), [self.a.b, 5 hours]) + CurrentTime();").text := by
  have hstrings : NoStrings (tokens (trim
      "A::op(n: (cardinality xs), [self.a.b, 5 hours]) + CurrentTime();".toList)) := by
    unfold NoStrings
    decide +kernel
  have hnested : WellNested "A::op(n: (cardinality xs), [self.a.b, 5 hours]) + CurrentTime();" := by
    decide +kernel
  exact ⟨hnested, expression_keeps_nesting _ _ (by decide +kernel) hstrings hnested⟩

end ExecutableUml.Action
