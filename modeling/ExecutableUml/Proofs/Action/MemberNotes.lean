import ExecutableUml.Action.Rendering
import ExecutableUml.Proofs.Action.CallArguments
import ExecutableUml.Proofs.Action.Relexing
import Mathlib.Logic.Basic

/-! Which members are noted as unknown. A read is noted when the class of the receiver has neither
an attribute nor an operation of that name. A call is noted when the class has no such operation,
but only of the owner and of the candidate: calls on variables are written as they stand. -/

namespace ExecutableUml.Action

open Text

/-- Some class is said not to have a member. -/
def NotesUnknown (ns : List Note) : Prop := ∃ n ∈ ns, n.kind = .unknownMember

/-- The name is a receiver whose class is known: the owner, the candidate of a condition, or a
variable that the generated code has no other use for. -/
structure Scope.Receiver (scope : Scope) (v : String) (c : ClassSymbols) : Prop where
  name : IsName v
  known : scope.classOf v = some c
  place : v = "self" ∨ scope.isCandidate v = true ∨ v ∉ plainReceivers

/-- Words that stand for the event, the parameters or a reading of the clock, whatever variable has
the same name. -/
def isReserved (v : String) : Bool :=
  v == "rcvd_evt" || v == "param" || (clockReading ⟨.ident, v.toList⟩).isSome

/-- Whether a member of the receiver is compared with its class. -/
def Scope.comparesMember (scope : Scope) (v : String) (isCall : Bool) : Bool :=
  !isReserved v && (!isCall || v == "self" || scope.isCandidate v)

section FirstAccess

variable {scope : Scope} {v : String} {s : Selector} {c : ClassSymbols}

theorem not_notesUnknown_nil : ¬ NotesUnknown [] := by simp [NotesUnknown]

theorem notesUnknown_checkMember (hknown : scope.classOf v = some c)
    (hsupport : isSupportMember s.field = false) :
    NotesUnknown (scope.checkMember v s) ↔ c.hasMember s = false := by
  simp only [Scope.checkMember, hsupport, hknown]
  cases hmember : c.hasMember s with
  | true => exact iff_of_false not_notesUnknown_nil (by decide)
  | false => exact iff_of_true ⟨_, List.mem_singleton_self _, rfl⟩ rfl

/-- The notes on the first member behind a receiver of a known class. -/
theorem notesUnknown_firstAccess (h : scope.Receiver v c)
    (hsupport : isSupportMember s.field = false) :
    NotesUnknown (scope.firstAccess v s).1.notes ↔
      (v ≠ "rcvd_evt" ∧ v ≠ "param" ∧ (s.isCall = true → v = "self" ∨ scope.isCandidate v = true)) ∧
        c.hasMember s = false := by
  have hcheck := notesUnknown_checkMember h.known hsupport
  rw [Scope.firstAccess]
  by_cases hevent : v = "rcvd_evt"
  · simp [hevent, not_notesUnknown_nil]
  by_cases hparam : v = "param"
  · simp [hparam, not_notesUnknown_nil]
  by_cases hcandidate : scope.isCandidate v = true
  · simpa [hevent, hparam, hcandidate] using hcheck
  by_cases hself : v = "self"
  · subst hself
    simpa [hcandidate] using hcheck
  have hplain : isPlainAccess v s = false := by
    have hplace := (h.place.resolve_left hself).resolve_left hcandidate
    simp [isPlainAccess, hsupport, hplace]
  simp only [if_neg hevent, if_neg hparam, if_neg hcandidate, if_neg hself, hplain, h.known]
  cases hcall : s.isCall with
  | true => simp [hself, hcandidate, not_notesUnknown_nil]
  | false =>
    have hmember : c.hasMember s = (c.hasAttribute s.field || c.hasOperation s.field) := by
      simp [ClassSymbols.hasMember, hcall]
    cases hoperation : c.hasOperation s.field with
    | true => simp [hmember, hoperation, not_notesUnknown_nil]
    | false => simpa [hevent, hparam] using hcheck

end FirstAccess

section Texts

variable {text : String} {t : Token}

theorem last_token_stays (hlast : ∀ c ∈ text.toList.getLast?, isBlank c = false ∧ c ≠ ';')
    (ht : t ∈ (tokens text.toList).getLast?) : (t.isBlank || t.isPunct ";") = false := by
  have hmem := List.mem_of_getLast? ht
  rw [Bool.or_eq_false_iff, Bool.eq_false_iff, Bool.eq_false_iff]
  constructor
  · intro hblank
    obtain ⟨hne, hall⟩ := blank_of_mem_tokens hmem (Token.isBlank_iff.1 hblank)
    have hchars := getLast?_of_tokens ht hne
    rw [List.getLast?_eq_some_getLast hne] at hchars
    exact absurd (hall _ (List.getLast_mem hne)) (by simp [(hlast _ hchars).1])
  · intro hmark
    simp only [Token.isPunct, Bool.and_eq_true, beq_iff_eq] at hmark
    have hchars := getLast?_of_tokens ht (by rw [hmark.2]; decide)
    rw [hmark.2] at hchars
    exact (hlast ';' hchars).2 rfl

theorem head_token_not_blank (hhead : ∀ c ∈ text.toList.head?, isBlank c = false) :
    (tokens text.toList).dropWhile Token.isBlank = tokens text.toList := by
  cases htext : text.toList with
  | nil => rw [tokens]; rfl
  | cons c rest =>
    rw [htext] at hhead
    rw [tokens_cons]
    refine List.dropWhile_cons_of_neg fun hblank => ?_
    have hc := blank_of_firstToken (Token.isBlank_iff.1 hblank)
    rw [hhead c rfl] at hc
    cases hc

/-- A text without blanks around it and without a terminator is read as it stands. -/
theorem parseExpression_of_ends (hhead : ∀ c ∈ text.toList.head?, isBlank c = false)
    (hlast : ∀ c ∈ text.toList.getLast?, isBlank c = false ∧ c ≠ ';') :
    parseExpression text = pieces (tokens text.toList) := by
  have htrim : trim text.toList = text.toList := trim_eq_self hhead fun c hc => (hlast c hc).1
  have hkept : dropTrailing (fun t => t.isBlank || t.isPunct ";") (tokens text.toList) =
      tokens text.toList := by
    cases hts : (tokens text.toList).getLast? with
    | none => rw [List.getLast?_eq_none_iff.1 hts]; rfl
    | some t =>
      obtain ⟨front, hfront⟩ := List.getLast?_eq_some_iff.1 hts
      rw [hfront]
      exact dropTrailing_concat (last_token_stays hlast hts) (by simp)
  rw [parseExpression, htrim, fragment, head_token_not_blank hhead, dropTerminators]
  simp only [hkept, List.drop_length, List.any_nil, Bool.false_and, Bool.false_eq_true, if_false]

end Texts

section Accesses

variable {v f : String} {rest : List Char}

/-- What may stand behind a member: nothing, or its arguments. -/
def EndsMember (rest : List Char) : Prop := rest = [] ∨ rest.head? = some '('

theorem tokens_member (hv : IsName v) (hf : IsName f) (hrest : EndsMember rest) :
    tokens ((v ++ "." ++ f).toList ++ rest) =
      ⟨.ident, v.toList⟩ :: ⟨.punct, ['.']⟩ :: ⟨.ident, f.toList⟩ :: tokens rest := by
  have hpoint : Stops (tokens ['.']) (f.toList ++ rest) := by
    rw [tokens_point]
    rintro _ ⟨⟩ c hc
    exact Token.stopsAt_wordStart (hf.head rest c hc).2
  have hword : ∀ c ∈ rest.head?, isWordChar c = false := by
    rcases hrest with rfl | hrest
    · simp
    · rw [hrest]
      rintro _ ⟨⟩
      decide
  have htext : (v ++ "." ++ f).toList ++ rest = v.toList ++ (['.'] ++ (f.toList ++ rest)) := by simp
  rw [htext, tokens_name hv (by rintro _ ⟨⟩; decide), tokens_append hpoint, tokens_point,
    tokens_name hf hword]
  rfl

def Scope.notesOn (scope : Scope) (ts : List Token) : List Note :=
  (renderPieces scope (pieces ts)).notes

theorem notesOn_cons (scope : Scope) (t : Token) (ts : List Token) :
    scope.notesOn (t :: ts) =
      ((construct t ts).1.piece.render scope).notes ++ scope.notesOn (construct t ts).2 := by
  rw [Scope.notesOn, pieces_cons, renderPieces]
  rfl

theorem notesOn_punct (scope : Scope) {mark : Char} (ts : List Token) :
    scope.notesOn (⟨.punct, [mark]⟩ :: ts) = scope.notesOn ts := by
  have hcolons : (⟨.punct, [mark]⟩ : Token).isPunct "::" = false := by simp [Token.isPunct]
  have hcopy : construct ⟨.punct, [mark]⟩ ts = (.copy ⟨.punct, [mark]⟩, ts) := by
    simp [construct, hcolons]
  rw [notesOn_cons, hcopy, Construct.piece, Piece.render]
  rfl

def OpensOrEnds (ts : List Token) : Prop := ts = [] ∨ ∃ us, ts = ⟨.punct, ['(']⟩ :: us

theorem opensOrEnds_tokens (h : EndsMember rest) : OpensOrEnds (tokens rest) := by
  rcases h with rfl | h
  · exact Or.inl (by rw [tokens])
  · obtain ⟨inside, rfl⟩ := List.head?_eq_some_iff.1 h
    exact Or.inr ⟨tokens inside, tokens_plainMark (m := "(") (by decide) inside⟩

theorem notesOn_dropEmptyCall (scope : Scope) {ts : List Token} (h : OpensOrEnds ts) :
    scope.notesOn (dropEmptyCall ts) = scope.notesOn ts := by
  rcases h with rfl | ⟨us, rfl⟩
  · rfl
  · cases us with
    | nil => rfl
    | cons close after =>
      rw [dropEmptyCall]
      split
      · rename_i hpair
        simp only [Bool.and_eq_true, Token.isPunct, beq_iff_eq] at hpair
        obtain ⟨kind, chars⟩ := close
        obtain ⟨-, rfl, rfl⟩ := hpair
        exact ((notesOn_punct scope _).trans (notesOn_punct scope after)).symm
      · rfl

/-- A name in front of arguments, or alone, notes nothing itself. -/
theorem notesOn_name (scope : Scope) (f : String) {ts : List Token} (h : OpensOrEnds ts) :
    scope.notesOn (⟨.ident, f.toList⟩ :: ts) = scope.notesOn ts := by
  have hoperand : operand ts = none := by
    rcases h with rfl | ⟨us, rfl⟩
    · rfl
    · cases us <;> rfl
  have hbridge : bridgeCall ⟨.ident, f.toList⟩ ts = none := by
    rcases h with rfl | ⟨us, rfl⟩
    · rfl
    · cases us <;> rfl
  have hselectors : selectors ts = ([], ts) := by
    rcases h with rfl | ⟨us, rfl⟩
    · rfl
    · cases us <;> rfl
  rw [notesOn_cons]
  simp only [construct, identConstruct]
  cases clockReading ⟨.ident, f.toList⟩ with
  | some reading => exact notesOn_dropEmptyCall scope h
  | none =>
    simp only [hoperand, hbridge, hselectors]
    cases emptinessTest ⟨.ident, f.toList⟩ <;> rfl

theorem construct_member (hclock : clockReading ⟨.ident, v.toList⟩ = none) {ts : List Token}
    (h : OpensOrEnds ts) :
    construct ⟨.ident, v.toList⟩ (⟨.punct, ['.']⟩ :: ⟨.ident, f.toList⟩ :: ts) =
      (.member v ⟨f, !ts.isEmpty⟩ [], ts) := by
  have hoperand : operand (⟨.punct, ['.']⟩ :: ⟨.ident, f.toList⟩ :: ts) = none := rfl
  have hbridge : bridgeCall ⟨.ident, v.toList⟩
      (⟨.punct, ['.']⟩ :: ⟨.ident, f.toList⟩ :: ts) = none := rfl
  have hselectors : selectors (⟨.punct, ['.']⟩ :: ⟨.ident, f.toList⟩ :: ts) =
      ([⟨f, !ts.isEmpty⟩], ts) := by
    rcases h with rfl | ⟨us, rfl⟩
    · simp [selectors, Token.isPunct, Token.isIdent, Token.text]
    · cases us <;> simp [selectors, Token.isPunct, Token.isIdent, Token.text]
  simp only [construct, identConstruct, hclock, hoperand, hbridge, hselectors]
  cases emptinessTest ⟨.ident, v.toList⟩ <;> simp [Token.text]

/-- The notes on the first member behind a name. A reading of the clock has no members. -/
def Scope.ownNotes (scope : Scope) (v : String) (s : Selector) : List Note :=
  if (clockReading ⟨.ident, v.toList⟩).isSome then [] else (scope.firstAccess v s).1.notes

/-- The notes on a member access are those on the member and those on what stands behind it. -/
theorem notesOn_member (scope : Scope) (v f : String) {ts : List Token} (h : OpensOrEnds ts) :
    scope.notesOn (⟨.ident, v.toList⟩ :: ⟨.punct, ['.']⟩ :: ⟨.ident, f.toList⟩ :: ts) =
      scope.ownNotes v ⟨f, !ts.isEmpty⟩ ++ scope.notesOn ts := by
  rw [notesOn_cons, Scope.ownNotes]
  cases hclock : clockReading ⟨.ident, v.toList⟩ with
  | none =>
    rw [construct_member hclock h]
    rfl
  | some reading =>
    have hread : construct ⟨.ident, v.toList⟩ (⟨.punct, ['.']⟩ :: ⟨.ident, f.toList⟩ :: ts) =
        (.clock reading, ⟨.punct, ['.']⟩ :: ⟨.ident, f.toList⟩ :: ts) := by
      simp only [construct, identConstruct, hclock]
      rfl
    rw [hread, notesOn_punct, notesOn_name scope f h]
    rfl

theorem expression_notesOn (scope : Scope) {text : String}
    (hhead : ∀ c ∈ text.toList.head?, isBlank c = false)
    (hlast : ∀ c ∈ text.toList.getLast?, isBlank c = false ∧ c ≠ ';') :
    (scope.expression text).notes = scope.notesOn (tokens text.toList) := by
  rw [Scope.expression, parseExpression_of_ends hhead hlast]
  rfl

theorem notesUnknown_own {scope : Scope} {c : ClassSymbols} {s : Selector}
    (hv : scope.Receiver v c) (hsupport : isSupportMember s.field = false) :
    NotesUnknown (scope.ownNotes v s) ↔
      scope.comparesMember v s.isCall = true ∧ c.hasMember s = false := by
  rw [Scope.ownNotes]
  cases hclock : clockReading ⟨.ident, v.toList⟩ with
  | some reading => simp [Scope.comparesMember, isReserved, hclock, not_notesUnknown_nil]
  | none =>
    have hfirst := notesUnknown_firstAccess hv hsupport
    simp only [Scope.comparesMember, isReserved, hclock, Option.isSome_none, Bool.or_false,
      Bool.and_eq_true, Bool.or_eq_true, Bool.not_eq_true', Bool.or_eq_false_iff, beq_iff_eq,
      beq_eq_false_iff_ne]
    rw [if_neg (by decide), hfirst]
    cases s.isCall <;> simp [and_assoc]

theorem expression_member (scope : Scope) (hv : IsName v) (hf : IsName f) (rest : String)
    (hends : EndsMember rest.toList)
    (hlast : ∀ c ∈ (v ++ "." ++ f ++ rest).toList.getLast?, isBlank c = false ∧ c ≠ ';') :
    (scope.expression (v ++ "." ++ f ++ rest)).notes =
      scope.ownNotes v ⟨f, !(tokens rest.toList).isEmpty⟩ ++
        scope.notesOn (tokens rest.toList) := by
  have hhead : ∀ c ∈ (v ++ "." ++ f ++ rest).toList.head?, isBlank c = false := by
    intro c hc
    simp only [String.toList_append, List.append_assoc] at hc
    exact (hv.head _ c hc).1
  rw [expression_notesOn scope hhead hlast, String.toList_append, tokens_member hv hf hends,
    notesOn_member scope v f (opensOrEnds_tokens hends)]

theorem IsName.last (hf : IsName f) (before : String) :
    ∀ c ∈ (before ++ f).toList.getLast?, isBlank c = false ∧ c ≠ ';' := by
  obtain ⟨hne, hword⟩ := hf.wordChars
  intro c hc
  rw [String.toList_append, List.getLast?_append_of_ne_nil _ hne] at hc
  have hc := hword c (List.mem_of_getLast? hc)
  refine ⟨not_blank_of_wordChar hc, ?_⟩
  rintro rfl
  exact absurd hc (by decide)

end Accesses

/-- What is noted on a member of a receiver whose class is known. A read is noted when it is
neither an attribute nor an operation of the class, a call when it is no operation, provided in both
cases that the member is compared with the class at all. Arguments have their own notes. -/
theorem memberNotes_iff (scope : Scope) {v f : String} {c : ClassSymbols} (hv : scope.Receiver v c)
    (hf : IsName f) (hsupport : isSupportMember f = false) :
    (NotesUnknown (scope.expression (v ++ "." ++ f)).notes ↔
      scope.comparesMember v false = true ∧ f ∉ c.attributes ∧ f ∉ c.operations) ∧
    ∀ args : String, ∃ own,
      (scope.expression (v ++ "." ++ f ++ ("(" ++ args ++ ")"))).notes =
        own ++ (scope.expression ("(" ++ args ++ ")")).notes ∧
      (NotesUnknown own ↔ scope.comparesMember v true = true ∧ f ∉ c.operations) := by
  constructor
  · have hread := expression_member scope hv.name hf "" (Or.inl rfl)
      (by simpa using hf.last (v ++ "."))
    have hnone : tokens "".toList = [] := by rw [String.toList_empty, tokens]
    have hmember : c.hasMember ⟨f, false⟩ = false ↔ f ∉ c.attributes ∧ f ∉ c.operations := by
      simp [ClassSymbols.hasMember, ClassSymbols.hasAttribute, ClassSymbols.hasOperation]
    rw [String.append_empty, hnone] at hread
    rw [hread, Scope.notesOn, pieces_nil, renderPieces, List.append_nil, ← hmember]
    exact notesUnknown_own (s := ⟨f, false⟩) hv hsupport
  · intro args
    have hgroup : ("(" ++ args ++ ")").toList = '(' :: (args.toList ++ [')']) := by simp
    have hlast : ∀ before : String, ∀ c ∈ (before ++ ("(" ++ args ++ ")")).toList.getLast?,
        isBlank c = false ∧ c ≠ ';' := by
      intro before c hc
      rw [String.toList_append, hgroup, ← List.cons_append, ← List.append_assoc,
        List.getLast?_concat] at hc
      cases hc
      decide
    have htokens : (tokens ("(" ++ args ++ ")").toList).isEmpty = false := by
      rw [hgroup, tokens_cons]
      rfl
    have hcall := expression_member scope hv.name hf ("(" ++ args ++ ")")
      (Or.inr (by rw [hgroup]; rfl)) (hlast _)
    have hargs : (scope.expression ("(" ++ args ++ ")")).notes =
        scope.notesOn (tokens ("(" ++ args ++ ")").toList) := by
      refine expression_notesOn scope ?_ (by simpa using hlast "")
      rw [hgroup]
      rintro _ ⟨⟩
      decide
    have hmember : c.hasMember ⟨f, true⟩ = false ↔ f ∉ c.operations := by
      simp [ClassSymbols.hasMember, ClassSymbols.hasOperation]
    refine ⟨scope.ownNotes v ⟨f, true⟩, ?_, ?_⟩
    · rw [hcall, hargs, htokens]
      rfl
    · rw [← hmember]
      exact notesUnknown_own (s := ⟨f, true⟩) hv hsupport

def product : ClassSymbols := ⟨"Product", "Product", "PRD", ["price"], ["label"], false⟩

def shopScope : Scope :=
  (Scope.ofOwner ⟨[⟨["Product", "PRD"], product⟩], []⟩ (some "Product") "owner").bind "p" "prd"

theorem shopScope_receivers : shopScope.Receiver "p" product ∧ shopScope.Receiver "self" product :=
  ⟨⟨by decide +kernel, by decide +kernel, by decide +kernel⟩,
    ⟨by decide +kernel, by decide +kernel, Or.inl rfl⟩⟩

/-- A read of the variable and a call of the owner. -/
theorem shop_memberNotes :
    shopScope.Receiver "p" product ∧ shopScope.Receiver "self" product ∧ IsName "weight" ∧
    isSupportMember "weight" = false ∧ NotesUnknown (shopScope.expression "p.weight").notes ∧
    ∃ own, (shopScope.expression "self.weight(p.price)").notes =
        own ++ (shopScope.expression "(p.price)").notes ∧ NotesUnknown own := by
  obtain ⟨hvariable, howner⟩ := shopScope_receivers
  have hname : IsName "weight" := by decide +kernel
  have hsupport : isSupportMember "weight" = false := by decide +kernel
  obtain ⟨hread, -⟩ := memberNotes_iff shopScope hvariable hname hsupport
  obtain ⟨-, hcall⟩ := memberNotes_iff shopScope howner hname hsupport
  obtain ⟨own, hnotes, hiff⟩ := hcall "p.price"
  exact ⟨hvariable, howner, hname, hsupport, hread.2 (by decide +kernel), own, hnotes,
    hiff.2 (by decide +kernel)⟩

/-- A call of an operation that the class does not have is noted of the owner, and not of a variable
that holds an instance of the same class. -/
theorem variable_call_not_noted :
    shopScope.Receiver "p" product ∧ IsName "restock" ∧ isSupportMember "restock" = false ∧
    "restock" ∉ product.operations ∧
    ¬ NotesUnknown (shopScope.expression "p.restock(2)").notes ∧
    NotesUnknown (shopScope.expression "self.restock(2)").notes := by
  have hvariable : (shopScope.expression "p.restock(2)").notes = [] := by decide +kernel
  have howner : (shopScope.expression "self.restock(2)").notes =
      [.unknownMember "Product" "restock" true] := by decide +kernel
  refine ⟨shopScope_receivers.1, by decide +kernel, by decide +kernel, by decide +kernel, ?_, ?_⟩
  · rw [hvariable]
    exact not_notesUnknown_nil
  · rw [howner]
    exact ⟨_, List.mem_singleton_self _, rfl⟩

end ExecutableUml.Action
