import ExecutableUml.Action.Expression

/-! What each construct of an expression takes of the tokens before it hands the rest on. The
constructs differ in what they look for; what they take is said once, in `Takes`. -/

namespace ExecutableUml.Action

namespace Token

def isString (t : Token) : Bool := t.kind == .string

theorem isPunct_of_blank {t : Token} {mark : String} (h : t.isBlank = true) :
    t.isPunct mark = false := by
  rw [isBlank, beq_iff_eq] at h
  rw [isPunct, h]
  rfl

theorem isPunct_of_ident {t : Token} {mark : String} (h : t.isIdent = true) :
    t.isPunct mark = false := by
  rw [isIdent, beq_iff_eq] at h
  rw [isPunct, h]
  rfl

theorem isString_of_punct {t : Token} {mark : String} (h : t.isPunct mark = true) :
    t.isString = false := by
  simp only [isPunct, Bool.and_eq_true, beq_iff_eq] at h
  rw [isString, h.1]
  rfl

theorem isBlank_of_punct {t : Token} {mark : String} (h : t.isPunct mark = true) :
    t.isBlank = false := by
  simp only [isPunct, Bool.and_eq_true, beq_iff_eq] at h
  rw [isBlank, h.1]
  rfl

theorem isString_of_ident {t : Token} (h : t.isIdent = true) : t.isString = false := by
  rw [isIdent, beq_iff_eq] at h
  rw [isString, h]
  rfl

theorem isString_of_blank {t : Token} (h : t.isBlank = true) : t.isString = false := by
  rw [isBlank, beq_iff_eq] at h
  rw [isString, h]
  rfl

end Token

def NoStrings (ts : List Token) : Prop := ∀ t ∈ ts, t.isString = false

namespace NoStrings

theorem nil : NoStrings [] := List.forall_mem_nil _

theorem cons {t : Token} {ts : List Token} (ht : t.isString = false) (hts : NoStrings ts) :
    NoStrings (t :: ts) :=
  List.forall_mem_cons.2 ⟨ht, hts⟩

theorem append {ts us : List Token} (hts : NoStrings ts) (hus : NoStrings us) :
    NoStrings (ts ++ us) :=
  List.forall_mem_append.2 ⟨hts, hus⟩

end NoStrings

def Bare (ts : List Token) : Prop :=
  ∀ t ∈ ts, t.isBlank = true ∨ t.isIdent = true ∨ t.isPunct "." = true

namespace Bare

theorem nil : Bare [] := List.forall_mem_nil _

theorem cons {t : Token} {ts : List Token}
    (ht : t.isBlank = true ∨ t.isIdent = true ∨ t.isPunct "." = true) (hts : Bare ts) :
    Bare (t :: ts) :=
  List.forall_mem_cons.2 ⟨ht, hts⟩

theorem noStrings {ts : List Token} (h : Bare ts) : NoStrings ts := by
  intro t ht
  rcases h t ht with hb | hi | hp
  · exact Token.isString_of_blank hb
  · exact Token.isString_of_ident hi
  · exact Token.isString_of_punct hp

end Bare

section Parts

variable {ts inside rest : List Token}

theorem timeUnit_takes {n : Nat} (h : timeUnit ts = some (n, rest)) :
    ∃ unit, ts = unit :: rest ∧ unit.isIdent = true := by
  unfold timeUnit at h
  split at h
  · split at h
    · obtain ⟨_, _, he⟩ := Option.map_eq_some_iff.1 h
      cases he
      exact ⟨_, rfl, by assumption⟩
    · cases h
  · cases h

theorem durationUnit_takes {n : Nat} (h : durationUnit ts = some (n, rest)) :
    ∃ taken, ts = taken ++ rest ∧ Bare taken := by
  unfold durationUnit at h
  split at h
  · split at h
    · rename_i b after hb
      obtain ⟨unit, rfl, hunit⟩ := timeUnit_takes h
      exact ⟨[b, unit], rfl, .cons (.inl hb) (.cons (.inr (.inl hunit)) .nil)⟩
    · obtain ⟨unit, hts, hunit⟩ := timeUnit_takes h
      exact ⟨[unit], hts, .cons (.inr (.inl hunit)) .nil⟩
  · cases h

theorem dropEmptyCall_takes (ts : List Token) :
    ts = dropEmptyCall ts ∨
      ∃ o c, ts = o :: c :: dropEmptyCall ts ∧ o.isPunct "(" = true ∧ c.isPunct ")" = true := by
  fun_cases dropEmptyCall ts with
  | case1 o c after h =>
    simp only [Bool.and_eq_true] at h
    exact .inr ⟨o, c, rfl, h.1, h.2⟩
  | case2 o c after h => exact .inl rfl
  | case3 => exact .inl rfl

theorem selectors_takes (ts : List Token) :
    ∃ taken, ts = taken ++ (selectors ts).2 ∧ Bare taken ∧
      ∀ s ∈ (selectors ts).1, ∃ u ∈ taken, u.isIdent = true ∧ s.field = u.text := by
  fun_induction selectors ts with
  | case1 dot field after h more rest e ih =>
    simp only [Bool.and_eq_true] at h
    obtain ⟨taken, hafter, htaken, hfields⟩ := ih
    rw [e] at hafter hfields
    refine ⟨dot :: field :: taken, by rw [hafter]; rfl, ?_, List.forall_mem_cons.2 ⟨?_, ?_⟩⟩
    · exact .cons (.inr (.inr h.1)) (.cons (.inr (.inl h.2)) htaken)
    · exact ⟨field, by simp, h.2, rfl⟩
    · intro s hs
      obtain ⟨u, hu, hfield⟩ := hfields s hs
      exact ⟨u, List.mem_cons_of_mem _ (List.mem_cons_of_mem _ hu), hfield⟩
  | case2 dot field after h => exact ⟨[], rfl, .nil, List.forall_mem_nil _⟩
  | case3 => exact ⟨[], rfl, .nil, List.forall_mem_nil _⟩

theorem dottedRun_takes (ts : List Token) :
    ts = (dottedRun ts).1 ++ (dottedRun ts).2 ∧ Bare (dottedRun ts).1 := by
  fun_induction dottedRun ts with
  | case1 dot field after h more rest e ih =>
    simp only [Bool.and_eq_true] at h
    rw [e] at ih
    refine ⟨congrArg (fun l => dot :: field :: l) ih.1, ?_⟩
    exact .cons (.inr (.inr h.1)) (.cons (.inr (.inl h.2)) ih.2)
  | case2 dot field after h => exact ⟨rfl, .nil⟩
  | case3 => exact ⟨rfl, .nil⟩

theorem operand_takes (h : operand ts = some (inside, rest)) :
    ∃ gap, ts = gap :: (inside ++ rest) ∧ gap.isBlank = true ∧ Bare inside := by
  unfold operand at h
  split at h
  · rename_i b x after
    split at h
    · rename_i hbx
      simp only [Bool.and_eq_true] at hbx
      cases h
      obtain ⟨hafter, hrun⟩ := dottedRun_takes after
      refine ⟨b, ?_, hbx.1, .cons (.inr (.inl hbx.2)) hrun⟩
      rw [List.cons_append, ← hafter]
    · cases h
  · cases h

theorem closeParen_takes {depth : Nat} (h : closeParen depth ts = some (inside, rest)) :
    ∃ close, ts = inside ++ close :: rest ∧ close.isPunct ")" = true := by
  induction ts generalizing depth inside with
  | nil => cases h
  | cons t ts ih =>
    rw [closeParen] at h
    split at h
    · rename_i hclose
      simp only [Bool.and_eq_true] at hclose
      cases h
      exact ⟨t, rfl, hclose.1⟩
    · obtain ⟨found, hfound, he⟩ := Option.map_eq_some_iff.1 h
      cases he
      obtain ⟨close, hts, hclose⟩ := ih hfound
      exact ⟨close, by rw [hts]; rfl, hclose⟩

theorem parenthesized_takes (h : parenthesized ts = some (inside, rest)) :
    ∃ o after, ts = o :: after ∧ o.isPunct "(" = true ∧ closeParen 0 after = some (inside, rest) := by
  unfold parenthesized at h
  split at h
  · split at h
    · rename_i ho
      exact ⟨_, _, rfl, ho, h⟩
    · cases h
  · cases h

end Parts

section Fragments

variable {ts part : List Token}

theorem dropTrailing_takes (p : Token → Bool) (ts : List Token) :
    ∃ dropped, ts = dropTrailing p ts ++ dropped ∧ ∀ t ∈ dropped, p t = true := by
  refine ⟨(ts.reverse.takeWhile p).reverse, ?_, ?_⟩
  · rw [dropTrailing, ← List.reverse_append, List.takeWhile_append_dropWhile, List.reverse_reverse]
  · intro t ht
    exact List.all_eq_true.1 List.all_takeWhile t (List.mem_reverse.1 ht)

theorem noStrings_of_blank (h : ∀ t ∈ ts, t.isBlank = true) : NoStrings ts :=
  fun t ht => Token.isString_of_blank (h t ht)

/-- What a fragment leaves out is blank, a semicolon or a closing parenthesis. -/
theorem dropTerminators_takes (ts : List Token) :
    ∃ dropped, ts = dropTerminators ts ++ dropped ∧ NoStrings dropped := by
  obtain ⟨tail, hts, htail⟩ := dropTrailing_takes (fun t => t.isBlank || t.isPunct ";") ts
  have hnone : NoStrings tail := by
    intro t ht
    rcases Bool.or_eq_true_iff.1 (htail t ht) with hb | hp
    · exact Token.isString_of_blank hb
    · exact Token.isString_of_punct hp
  simp only [dropTerminators]
  generalize dropTrailing (fun t => t.isBlank || t.isPunct ";") ts = kept at *
  split
  · rename_i hended
    simp only [endsUnbalanced, Bool.and_eq_true, Option.any_eq_true] at hended
    obtain ⟨-, ⟨close, hlast, hclose⟩, -⟩ := hended
    obtain ⟨front, rfl⟩ := List.getLast?_eq_some_iff.1 hlast
    obtain ⟨blanks, hfront, hblanks⟩ := dropTrailing_takes Token.isBlank front
    refine ⟨blanks ++ close :: tail, ?_, ?_⟩
    · rw [List.dropLast_concat, ← List.append_assoc, ← hfront, hts, List.append_assoc]
      rfl
    · exact (noStrings_of_blank hblanks).append (.cons (Token.isString_of_punct hclose) hnone)
  · exact ⟨tail, hts, hnone⟩

theorem fragment_takes (ts : List Token) :
    ∃ before after, ts = before ++ (fragment ts ++ after) ∧ NoStrings before ∧ NoStrings after := by
  obtain ⟨dropped, hts, hdropped⟩ := dropTerminators_takes (ts.dropWhile Token.isBlank)
  refine ⟨ts.takeWhile Token.isBlank, dropped, ?_, noStrings_of_blank ?_, hdropped⟩
  · rw [fragment, ← hts, List.takeWhile_append_dropWhile]
  · exact List.all_eq_true.1 List.all_takeWhile

def unpadded (ts : List Token) : List Token :=
  dropTrailing Token.isBlank (ts.dropWhile Token.isBlank)

theorem unpadded_takes (ts : List Token) :
    ∃ before after, ts = before ++ (unpadded ts ++ after) ∧ (∀ t ∈ before, t.isBlank = true) ∧
      ∀ t ∈ after, t.isBlank = true := by
  obtain ⟨after, hts, hafter⟩ := dropTrailing_takes Token.isBlank (ts.dropWhile Token.isBlank)
  refine ⟨ts.takeWhile Token.isBlank, after, ?_, List.all_eq_true.1 List.all_takeWhile, hafter⟩
  rw [unpadded, ← hts, List.takeWhile_append_dropWhile]

theorem dropWhile_unpadded (ts : List Token) :
    (unpadded ts).dropWhile Token.isBlank = unpadded ts := by
  obtain ⟨after, hts, -⟩ := dropTrailing_takes Token.isBlank (ts.dropWhile Token.isBlank)
  have hhead := List.head?_dropWhile_not Token.isBlank ts
  rw [hts, ← unpadded] at hhead
  cases hu : unpadded ts with
  | nil => rfl
  | cons t rest =>
    rw [hu] at hhead
    exact List.dropWhile_cons_of_neg (by simpa using hhead)

theorem dropWhile_dropWhile_of_imp {α : Type} {p q : α → Bool} (h : ∀ x, q x = true → p x = true)
    (l : List α) : (l.dropWhile q).dropWhile p = l.dropWhile p := by
  induction l with
  | nil => rfl
  | cons x l ih =>
    by_cases hx : q x = true
    · rw [List.dropWhile_cons_of_pos hx, List.dropWhile_cons_of_pos (h x hx), ih]
    · rw [List.dropWhile_cons_of_neg hx]

/-- Terminators are looked for over blanks, so blanks behind them change nothing. -/
theorem dropTerminators_dropTrailing (ts : List Token) :
    dropTerminators (dropTrailing Token.isBlank ts) = dropTerminators ts := by
  obtain ⟨blanks, hts, hblanks⟩ := dropTrailing_takes Token.isBlank ts
  have hkept : dropTrailing (fun t => t.isBlank || t.isPunct ";") (dropTrailing Token.isBlank ts) =
      dropTrailing (fun t => t.isBlank || t.isPunct ";") ts := by
    rw [dropTrailing, dropTrailing, List.reverse_reverse,
      dropWhile_dropWhile_of_imp fun t ht => by rw [ht]; rfl, ← dropTrailing]
  have hnone : blanks.any (·.isPunct ";") = false :=
    List.any_eq_false.2 fun t ht => by rw [Token.isPunct_of_blank (hblanks t ht)]; simp
  have hlen := dropTrailing_length (fun t => t.isBlank || t.isPunct ";")
    (dropTrailing Token.isBlank ts)
  have hended : ∀ n ≤ (dropTrailing Token.isBlank ts).length,
      (ts.drop n).any (·.isPunct ";") =
        ((dropTrailing Token.isBlank ts).drop n).any (·.isPunct ";") := by
    intro n hn
    conv => lhs; rw [hts, List.drop_append_of_le_length hn, List.any_append, hnone, Bool.or_false]
  rw [hkept] at hlen
  rw [dropTerminators, dropTerminators, hkept, hended _ hlen]

theorem unpadded_unpadded (ts : List Token) : unpadded (unpadded ts) = unpadded ts := by
  rw [unpadded, dropWhile_unpadded, unpadded, dropTrailing, dropTrailing, List.reverse_reverse,
    dropWhile_dropWhile_of_imp fun _ h => h]

theorem fragment_unpadded (ts : List Token) : fragment (unpadded ts) = fragment ts := by
  rw [fragment, dropWhile_unpadded, unpadded, dropTerminators_dropTrailing, fragment]

/-- The tokens of an argument's value, as they stand in the list: behind `name:` and without the
blanks around them, or the whole part. -/
def argumentSource (part : List Token) : Option (Option String × List Token) :=
  match significant part with
  | [] => none
  | name :: colon :: _ :: _ =>
    if name.isIdent && colon.isPunct ":" then
      some (some name.text, unpadded ((part.dropWhile fun t => !t.isPunct ":").drop 1))
    else some (none, part)
  | _ => some (none, part)

theorem argumentPart_eq (part : List Token) :
    argumentPart part = (argumentSource part).map fun a => (a.1, fragment a.2) := by
  unfold argumentPart argumentSource
  rcases significant part with _ | ⟨name, _ | ⟨colon, _ | ⟨third, more⟩⟩⟩
  · rfl
  · rfl
  · rfl
  · cases hnamed : name.isIdent && colon.isPunct ":" <;>
      simp [hnamed, fragment_unpadded]

theorem significant_takes {t : Token} {more : List Token} (h : significant ts = t :: more) :
    ∃ gap rest, ts = gap ++ t :: rest ∧ (∀ u ∈ gap, u.isBlank = true) ∧
      significant rest = more := by
  obtain ⟨gap, rest, hts, hgap, -, hrest⟩ := List.filter_eq_cons_iff.1 h
  refine ⟨gap, rest, hts, fun u hu => ?_, hrest⟩
  simpa using hgap u hu

theorem argumentSource_none (h : argumentSource part = none) : NoStrings part := by
  unfold argumentSource at h
  split at h
  · rename_i hnone
    refine noStrings_of_blank fun t ht => ?_
    simpa using List.filter_eq_nil_iff.1 hnone t ht
  · split at h <;> cases h
  · cases h

/-- Only blanks and the name stand before the colon of a named argument. -/
theorem behind_colon {gap gap' rest : List Token} {name colon : Token}
    (hgap : ∀ t ∈ gap, t.isBlank = true) (hname : name.isIdent = true)
    (hgap' : ∀ t ∈ gap', t.isBlank = true) (hcolon : colon.isPunct ":" = true) :
    ((gap ++ name :: (gap' ++ colon :: rest)).dropWhile fun t => !t.isPunct ":").drop 1 = rest := by
  have hbefore : ∀ t ∈ gap ++ name :: gap', (!t.isPunct ":") = true := by
    refine List.forall_mem_append.2 ⟨?_, List.forall_mem_cons.2 ⟨?_, ?_⟩⟩
    · exact fun t ht => by rw [Token.isPunct_of_blank (hgap t ht)]; rfl
    · rw [Token.isPunct_of_ident hname]
      rfl
    · exact fun t ht => by rw [Token.isPunct_of_blank (hgap' t ht)]; rfl
  rw [← List.cons_append, ← List.append_assoc, List.dropWhile_append_of_pos hbefore,
    List.dropWhile_cons_of_neg (by simp [hcolon]), List.drop_one, List.tail_cons]

theorem argumentSource_takes {name : Option String} {value : List Token}
    (h : argumentSource part = some (name, value)) :
    ∃ before after, part = before ++ (value ++ after) ∧ NoStrings before ∧ NoStrings after := by
  unfold argumentSource at h
  split at h
  · cases h
  · rename_i ident colon third more hwords
    split at h
    · rename_i hnamed
      simp only [Bool.and_eq_true] at hnamed
      cases h
      obtain ⟨gap, rest, rfl, hgap, hrest⟩ := significant_takes hwords
      obtain ⟨gap', rest', rfl, hgap', -⟩ := significant_takes hrest
      rw [behind_colon hgap hnamed.1 hgap' hnamed.2]
      obtain ⟨before, after, hvalue, hbefore, hafter⟩ := unpadded_takes rest'
      have hopening : NoStrings (gap ++ ident :: gap' ++ [colon]) :=
        ((noStrings_of_blank hgap).append (.cons (Token.isString_of_ident hnamed.1)
          (noStrings_of_blank hgap'))).append (.cons (Token.isString_of_punct hnamed.2) .nil)
      refine ⟨gap ++ ident :: gap' ++ [colon] ++ before, after, ?_,
        hopening.append (noStrings_of_blank hbefore), noStrings_of_blank hafter⟩
      conv => lhs; rw [hvalue]
      simp only [List.append_assoc, List.cons_append, List.nil_append]
    · cases h
      exact ⟨[], [], (List.append_nil _).symm, .nil, .nil⟩
  · cases h
    exact ⟨[], [], (List.append_nil _).symm, .nil, .nil⟩

end Fragments

/-- The parts of a list between some of its separators. -/
inductive Parted {α : Type} (isSeparator : α → Bool) : List α → List (List α) → Prop where
  | whole (l : List α) : Parted isSeparator l [l]
  | next {part rest : List α} {parts : List (List α)} {sep : α} (hsep : isSeparator sep = true)
      (h : Parted isSeparator rest parts) : Parted isSeparator (part ++ sep :: rest) (part :: parts)

namespace Parted

variable {α : Type} {isSeparator : α → Bool} {l part : List α} {parts : List (List α)}

theorem cons (h : Parted isSeparator l (part :: parts)) (x : α) :
    Parted isSeparator (x :: l) ((x :: part) :: parts) := by
  cases h with
  | whole => exact .whole _
  | next hsep h =>
    rw [← List.cons_append]
    exact .next hsep h

theorem isInfix (h : Parted isSeparator l parts) (hpart : part ∈ parts) : part <:+: l := by
  induction h with
  | whole l => exact List.mem_singleton.1 hpart ▸ List.infix_refl l
  | @next first rest parts sep hsep h ih =>
    rcases List.mem_cons.1 hpart with rfl | hpart
    · exact (List.prefix_append part _).isInfix
    · have hrest : rest <:+ first ++ sep :: rest :=
        (List.suffix_cons sep rest).trans (List.suffix_append first _)
      exact (ih hpart).trans hrest.isInfix

end Parted

theorem parted_splitArguments (depth : Nat) (ts : List Token) :
    Parted (·.isPunct ",") ts (splitArguments depth ts) := by
  induction ts generalizing depth with
  | nil => exact .whole []
  | cons t ts ih =>
    rw [splitArguments]
    split
    · rename_i hcomma
      simp only [Bool.and_eq_true] at hcomma
      rw [← List.nil_append (t :: ts)]
      exact .next hcomma.1 (ih depth)
    · simp only
      generalize (if (t.isPunct "(" || t.isPunct "[") = true then depth + 1
        else if (t.isPunct ")" || t.isPunct "]") = true then depth - 1 else depth) = after
      have hrest := ih after
      cases hparts : splitArguments after ts with
      | nil =>
        rw [hparts] at hrest
        cases hrest
      | cons part parts =>
        rw [hparts] at hrest
        exact hrest.cons t

/-- The tokens that each construct is made of, behind the `t` that it begins with. -/
inductive Reads (t : Token) (ts : List Token) : Construct × List Token → Prop where
  | copy : Reads t ts (.copy t, ts)
  | name (ht : t.isIdent = true) : Reads t ts (.name t.text, ts)
  | duration {seconds : Nat} {taken rest : List Token} (ht : t.kind = .number)
      (hts : ts = taken ++ rest) (htaken : Bare taken) : Reads t ts (.duration t.text seconds, rest)
  | clock {reading : ClockReading} {rest : List Token} (ht : t.isIdent = true)
      (hts : ts = rest ∨
        ∃ o c, ts = o :: c :: rest ∧ o.isPunct "(" = true ∧ c.isPunct ")" = true) :
      Reads t ts (.clock reading, rest)
  | test {kind : EmptinessTest} {gap : Token} {operand rest : List Token} (ht : t.isIdent = true)
      (hts : ts = gap :: (operand ++ rest)) (hgap : gap.isBlank = true) (hoperand : Bare operand) :
      Reads t ts (.test kind operand, rest)
  | bridge {colons op o : Token} {after inside rest : List Token} (ht : t.isIdent = true)
      (hts : ts = colons :: op :: o :: after) (hcolons : colons.isPunct "::" = true)
      (hop : op.isIdent = true) (ho : o.isPunct "(" = true)
      (hclose : closeParen 0 after = some (inside, rest)) :
      Reads t ts (.call (.bridge t.text op.text) (argumentParts inside), rest)
  | function {name o : Token} {after inside rest : List Token} (ht : t.isPunct "::" = true)
      (hts : ts = name :: o :: after) (hname : name.isIdent = true) (ho : o.isPunct "(" = true)
      (hclose : closeParen 0 after = some (inside, rest)) :
      Reads t ts (.call (.function name.text) (argumentParts inside), rest)
  | member {first : Selector} {further : List Selector} {taken rest : List Token}
      (ht : t.isIdent = true) (hts : ts = taken ++ rest) (htaken : Bare taken)
      (hfields : ∀ s ∈ first :: further, ∃ u ∈ taken, u.isIdent = true ∧ s.field = u.text) :
      Reads t ts (.member t.text first further, rest)

theorem of_guard {p : Prop} [Decidable p] {u : Unit} (h : (guard p : Option Unit) = some u) :
    p := by
  unfold guard at h
  split at h
  · assumption
  · cases h

section Constructs

variable {t : Token} {ts : List Token} {found : Construct × List Token}

theorem bridgeCall_reads (ht : t.isIdent = true) (h : bridgeCall t ts = some found) :
    Reads t ts found := by
  unfold bridgeCall at h
  split at h
  · obtain ⟨_, hguard, h⟩ := Option.bind_eq_some_iff.1 h
    obtain ⟨⟨inside, rest⟩, hparens, h⟩ := Option.bind_eq_some_iff.1 h
    cases h
    have hop := of_guard hguard
    simp only [Bool.and_eq_true] at hop
    obtain ⟨o, after, rfl, ho, hclose⟩ := parenthesized_takes hparens
    exact .bridge ht rfl hop.1 hop.2 ho hclose
  · cases h

theorem functionCall_reads (ht : t.isPunct "::" = true) (h : functionCall ts = some found) :
    Reads t ts found := by
  unfold functionCall at h
  split at h
  · obtain ⟨_, hguard, h⟩ := Option.bind_eq_some_iff.1 h
    obtain ⟨⟨inside, rest⟩, hparens, h⟩ := Option.bind_eq_some_iff.1 h
    cases h
    obtain ⟨o, after, rfl, ho, hclose⟩ := parenthesized_takes hparens
    exact .function ht rfl (of_guard hguard) ho hclose
  · cases h

theorem identConstruct_reads (ht : t.isIdent = true) (ts : List Token) :
    Reads t ts (identConstruct t ts) := by
  unfold identConstruct
  split
  · exact .clock ht (dropEmptyCall_takes ts)
  · split
    · rename_i hoperand
      obtain ⟨gap, hts, hgap, hinner⟩ := operand_takes hoperand
      exact .test ht hts hgap hinner
    · split
      · exact bridgeCall_reads ht (by assumption)
      · split
        · rename_i hselectors
          obtain ⟨taken, hts, htaken, hfields⟩ := selectors_takes ts
          rw [hselectors] at hts hfields
          exact .member ht hts htaken hfields
        · exact .name ht

theorem construct_reads (t : Token) (ts : List Token) : Reads t ts (construct t ts) := by
  unfold construct
  split
  · rename_i hkind
    split
    · rename_i hunit
      obtain ⟨taken, hts, htaken⟩ := durationUnit_takes hunit
      exact .duration hkind hts htaken
    · exact .copy
  · rename_i hkind
    exact identConstruct_reads (by rw [Token.isIdent, hkind]; rfl) ts
  · split
    · rename_i hcolons
      cases hfound : functionCall ts with
      | none => exact .copy
      | some found => exact functionCall_reads hcolons hfound
    · exact .copy
  · exact .copy
  · exact .copy

end Constructs

def Construct.isLeaf : Construct → Bool
  | .name _ => true
  | .duration _ _ => true
  | .clock _ => true
  | .member _ _ _ => true
  | _ => false

/-- What the construct that begins with `t` takes of the tokens behind it, and what it leaves. -/
inductive Takes (t : Token) (ts : List Token) : Construct × List Token → Prop where
  | copy : Takes t ts (.copy t, ts)
  | leaf {c : Construct} {taken rest : List Token} (hc : c.isLeaf = true)
      (hts : ts = taken ++ rest) (ht : NoStrings (t :: taken)) : Takes t ts (c, rest)
  | test {kind : EmptinessTest} {gap : Token} {operand rest : List Token}
      (hts : ts = gap :: (operand ++ rest)) (ht : NoStrings (t :: gap :: operand)) :
      Takes t ts (.test kind operand, rest)
  | call {callee : Callee} {opening inside rest : List Token} {close : Token}
      (hts : ts = opening ++ (inside ++ close :: rest)) (ht : NoStrings (t :: opening))
      (hclose : close.isPunct ")" = true) : Takes t ts (.call callee (argumentParts inside), rest)

/-- What one construct takes, whichever it is. -/
theorem construct_takes (t : Token) (ts : List Token) : Takes t ts (construct t ts) := by
  have hreads := construct_reads t ts
  generalize construct t ts = c at *
  cases hreads with
  | copy => exact .copy
  | name ht => exact .leaf rfl (List.nil_append ts).symm (.cons (Token.isString_of_ident ht) .nil)
  | duration ht hts htaken =>
    exact .leaf rfl hts (.cons (by rw [Token.isString, ht]; rfl) htaken.noStrings)
  | @clock reading rest ht hts =>
    have hident := Token.isString_of_ident ht
    rcases hts with rfl | ⟨o, c, hts, ho, hc⟩
    · exact .leaf rfl (List.nil_append ts).symm (.cons hident .nil)
    · have htaken : ts = [o, c] ++ rest := hts
      exact .leaf rfl htaken (.cons hident (.cons (Token.isString_of_punct ho)
        (.cons (Token.isString_of_punct hc) .nil)))
  | test ht hts hgap hoperand =>
    exact .test hts (.cons (Token.isString_of_ident ht) (.cons (Token.isString_of_blank hgap)
      hoperand.noStrings))
  | @bridge colons op o after inside rest ht hts hcolons hop ho hclose =>
    obtain ⟨close, hafter, hmark⟩ := closeParen_takes hclose
    have hopening : NoStrings [t, colons, op, o] :=
      .cons (Token.isString_of_ident ht) (.cons (Token.isString_of_punct hcolons)
        (.cons (Token.isString_of_ident hop) (.cons (Token.isString_of_punct ho) .nil)))
    exact .call (by rw [hts, hafter]; rfl) hopening hmark
  | @function name o after inside rest ht hts hname ho hclose =>
    obtain ⟨close, hafter, hmark⟩ := closeParen_takes hclose
    have hopening : NoStrings [t, name, o] :=
      .cons (Token.isString_of_punct ht) (.cons (Token.isString_of_ident hname)
        (.cons (Token.isString_of_punct ho) .nil))
    exact .call (by rw [hts, hafter]; rfl) hopening hmark
  | member ht hts htaken hfields =>
    exact .leaf rfl hts (.cons (Token.isString_of_ident ht) htaken.noStrings)

def Construct.piece : Construct → Piece
  | .copy token => .copy token
  | .name text => .name text
  | .duration amount seconds => .duration amount seconds
  | .clock reading => .clock reading
  | .test kind operand => .test kind (pieces operand)
  | .call callee args => .call callee (args.map fun a => .mk a.1 (pieces a.2))
  | .member head selector further => .member head selector further

theorem pieces_nil : pieces [] = [] := by rw [pieces]

theorem pieces_cons (t : Token) (ts : List Token) :
    pieces (t :: ts) = (construct t ts).1.piece :: pieces (construct t ts).2 := by
  rw [pieces]
  congr 1
  split
  case h_6 callee args heq =>
    refine Eq.trans ?_ (congrArg Construct.piece heq).symm
    exact congrArg (Piece.call callee)
      (List.attach_map_val
        (f := fun a : Option String × List Token => Actual.mk a.1 (pieces a.2)))
  all_goals
    rename_i heq
    exact (congrArg Construct.piece heq).symm

end ExecutableUml.Action
