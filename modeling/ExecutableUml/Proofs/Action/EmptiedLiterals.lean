import ExecutableUml.Proofs.Action.ExpressionParts

/-! What an expression is made of does not depend on what its string literals say. Every step that
takes tokens apart looks at names, numbers, marks and blanks only, so it does the same to tokens
whose literals are emptied. -/

namespace ExecutableUml.Action

open Text

namespace Token

/-- A string literal loses its characters; every other token stays. -/
def emptied (t : Token) : Token := if t.isString then ⟨.string, []⟩ else t

variable {t : Token}

theorem emptied_eq_self (h : t.isString = false) : t.emptied = t := by
  rw [emptied, h]
  rfl

@[simp] theorem kind_emptied (t : Token) : t.emptied.kind = t.kind := by
  rw [emptied]
  split
  · rename_i h
    exact (beq_iff_eq.1 h).symm
  · rfl

@[simp] theorem isIdent_emptied (t : Token) : t.emptied.isIdent = t.isIdent := by
  rw [isIdent, isIdent, kind_emptied]

@[simp] theorem isBlank_emptied (t : Token) : t.emptied.isBlank = t.isBlank := by
  rw [isBlank, isBlank, kind_emptied]

@[simp] theorem isString_emptied (t : Token) : t.emptied.isString = t.isString := by
  rw [isString, isString, kind_emptied]

@[simp] theorem isPunct_emptied (t : Token) (mark : String) :
    t.emptied.isPunct mark = t.isPunct mark := by
  cases h : t.isString with
  | false => rw [emptied_eq_self h]
  | true =>
    have hkind : t.kind = .string := beq_iff_eq.1 h
    rw [isPunct, isPunct, kind_emptied, hkind]
    rfl

theorem emptied_of_ident (h : t.isIdent = true) : t.emptied = t :=
  emptied_eq_self (isString_of_ident h)

end Token

def emptied (ts : List Token) : List Token := ts.map Token.emptied

@[simp] theorem emptied_nil : emptied [] = [] := rfl

@[simp] theorem emptied_cons (t : Token) (ts : List Token) :
    emptied (t :: ts) = t.emptied :: emptied ts := rfl

theorem length_emptied (ts : List Token) : (emptied ts).length = ts.length := List.length_map _

theorem timeUnit_emptied (ts : List Token) :
    timeUnit (emptied ts) = (timeUnit ts).map fun c => (c.1, emptied c.2) := by
  cases ts with
  | nil => rfl
  | cons u after =>
    rw [emptied_cons, timeUnit, timeUnit, Token.isIdent_emptied]
    cases h : u.isIdent with
    | false => rfl
    | true =>
      rw [Token.emptied_of_ident h, if_pos rfl, if_pos rfl, Option.map_map]
      rfl

theorem durationUnit_emptied (ts : List Token) :
    durationUnit (emptied ts) = (durationUnit ts).map fun c => (c.1, emptied c.2) := by
  cases ts with
  | nil => rfl
  | cons b rest =>
    rw [emptied_cons, durationUnit, durationUnit, Token.isBlank_emptied, ← emptied_cons,
      timeUnit_emptied, timeUnit_emptied]
    split
    · rfl
    · rfl

theorem dropEmptyCall_emptied (ts : List Token) :
    dropEmptyCall (emptied ts) = emptied (dropEmptyCall ts) := by
  rcases ts with _ | ⟨o, _ | ⟨c, after⟩⟩
  · rfl
  · rfl
  · simp only [emptied_cons, dropEmptyCall, Token.isPunct_emptied]
    split
    · rfl
    · rfl

theorem closeParen_emptied (depth : Nat) (ts : List Token) :
    closeParen depth (emptied ts) =
      (closeParen depth ts).map fun c => (emptied c.1, emptied c.2) := by
  induction ts generalizing depth with
  | nil => rfl
  | cons t ts ih =>
    rw [emptied_cons, closeParen, closeParen]
    simp only [Token.isPunct_emptied, ih]
    split
    · rfl
    · rw [Option.map_map, Option.map_map]
      rfl

theorem parenthesized_emptied (ts : List Token) :
    parenthesized (emptied ts) =
      (parenthesized ts).map fun c => (emptied c.1, emptied c.2) := by
  cases ts with
  | nil => rfl
  | cons o ts =>
    rw [emptied_cons, parenthesized, parenthesized, Token.isPunct_emptied, closeParen_emptied]
    split
    · rfl
    · rfl

theorem selectors_emptied (ts : List Token) :
    selectors (emptied ts) = ((selectors ts).1, emptied (selectors ts).2) := by
  fun_induction selectors ts with
  | case1 dot field after h more rest e ih =>
    have hident := (Bool.and_eq_true_iff.1 h).2
    have hhead : (emptied after).head?.any (·.isPunct "(") = after.head?.any (·.isPunct "(") := by
      cases after with
      | nil => rfl
      | cons t after => exact Token.isPunct_emptied t "("
    rw [e] at ih
    rw [emptied_cons, emptied_cons, selectors, Token.isPunct_emptied, Token.isIdent_emptied,
      if_pos h, ih, hhead, Token.emptied_of_ident hident]
  | case2 dot field after h =>
    rw [emptied_cons, emptied_cons, selectors, Token.isPunct_emptied, Token.isIdent_emptied,
      if_neg h]
  | case3 ts h =>
    rcases ts with _ | ⟨dot, _ | ⟨field, after⟩⟩
    · rfl
    · rfl
    · exact absurd rfl (h dot field after)

theorem dottedRun_emptied (ts : List Token) :
    dottedRun (emptied ts) = (emptied (dottedRun ts).1, emptied (dottedRun ts).2) := by
  fun_induction dottedRun ts with
  | case1 dot field after h more rest e ih =>
    rw [e] at ih
    rw [emptied_cons, emptied_cons, dottedRun, Token.isPunct_emptied, Token.isIdent_emptied,
      if_pos h, ih]
    rfl
  | case2 dot field after h =>
    rw [emptied_cons, emptied_cons, dottedRun, Token.isPunct_emptied, Token.isIdent_emptied,
      if_neg h]
    rfl
  | case3 ts h =>
    rcases ts with _ | ⟨dot, _ | ⟨field, after⟩⟩
    · rfl
    · rfl
    · exact absurd rfl (h dot field after)

theorem operand_emptied (ts : List Token) :
    operand (emptied ts) =
      (operand ts).map fun c => (emptied c.1, emptied c.2) := by
  rcases ts with _ | ⟨b, _ | ⟨x, after⟩⟩
  · rfl
  · rfl
  · rw [emptied_cons, emptied_cons, operand, operand, Token.isBlank_emptied, Token.isIdent_emptied,
      dottedRun_emptied]
    split
    · rfl
    · rfl

theorem splitArguments_emptied (depth : Nat) (ts : List Token) :
    splitArguments depth (emptied ts) = (splitArguments depth ts).map emptied := by
  induction ts generalizing depth with
  | nil => rfl
  | cons t ts ih =>
    rw [emptied_cons, splitArguments, splitArguments]
    simp only [Token.isPunct_emptied, ih]
    split
    · rfl
    · cases splitArguments _ ts with
      | nil => rfl
      | cons part parts => rfl

section Fragments

theorem dropWhile_emptied {p : Token → Bool} (hp : ∀ t : Token, p t.emptied = p t)
    (ts : List Token) : (emptied ts).dropWhile p = emptied (ts.dropWhile p) := by
  rw [emptied, List.dropWhile_map]
  congr 1
  congr 1
  exact funext hp

theorem dropTrailing_emptied {p : Token → Bool} (hp : ∀ t : Token, p t.emptied = p t)
    (ts : List Token) : dropTrailing p (emptied ts) = emptied (dropTrailing p ts) := by
  rw [dropTrailing, emptied, ← List.map_reverse, ← emptied, dropWhile_emptied hp, emptied,
    ← List.map_reverse]
  rfl

theorem endsUnbalanced_emptied (ts : List Token) :
    endsUnbalanced (emptied ts) = endsUnbalanced ts := by
  have hcount : ∀ mark, (emptied ts).countP (·.isPunct mark) = ts.countP (·.isPunct mark) := by
    intro mark
    rw [emptied, List.countP_map]
    congr 1
    funext t
    exact Token.isPunct_emptied t mark
  have hlast : (emptied ts).getLast?.any (·.isPunct ")") = ts.getLast?.any (·.isPunct ")") := by
    rw [emptied, List.getLast?_map]
    cases ts.getLast? with
    | none => rfl
    | some t => exact Token.isPunct_emptied t ")"
  rw [endsUnbalanced, endsUnbalanced, hcount, hcount, hlast]

theorem dropTerminators_emptied (ts : List Token) :
    dropTerminators (emptied ts) = emptied (dropTerminators ts) := by
  have hended : ∀ n,
      ((emptied ts).drop n).any (·.isPunct ";") = (ts.drop n).any (·.isPunct ";") := by
    intro n
    rw [emptied, ← List.map_drop, List.any_map]
    congr 1
    funext t
    exact Token.isPunct_emptied t ";"
  have hkept := dropTrailing_emptied (p := fun t => t.isBlank || t.isPunct ";") (by simp) ts
  simp only [dropTerminators, hkept, length_emptied, hended, endsUnbalanced_emptied]
  split
  · rw [emptied, ← List.map_dropLast, ← emptied, dropTrailing_emptied Token.isBlank_emptied]
  · rfl

theorem fragment_emptied (ts : List Token) : fragment (emptied ts) = emptied (fragment ts) := by
  rw [fragment, dropWhile_emptied Token.isBlank_emptied, dropTerminators_emptied, fragment]

theorem significant_emptied (ts : List Token) :
    significant (emptied ts) = emptied (significant ts) := by
  rw [significant, emptied, List.filter_map]
  congr 2
  funext t
  simp

theorem argumentPart_emptied (part : List Token) :
    argumentPart (emptied part) = (argumentPart part).map fun a => (a.1, emptied a.2) := by
  have hvalue : ((emptied part).dropWhile fun t => !t.isPunct ":").drop 1 =
      emptied ((part.dropWhile fun t => !t.isPunct ":").drop 1) := by
    rw [dropWhile_emptied (by simp), emptied, ← List.map_drop]
    rfl
  unfold argumentPart
  rw [significant_emptied, hvalue, fragment_emptied, fragment_emptied]
  rcases significant part with _ | ⟨name, _ | ⟨colon, _ | ⟨third, more⟩⟩⟩
  · rfl
  · rfl
  · rfl
  · simp only [emptied_cons, Token.isIdent_emptied, Token.isPunct_emptied]
    split
    · rename_i hnamed
      rw [Token.emptied_of_ident (Bool.and_eq_true_iff.1 hnamed).1]
      rfl
    · rfl

theorem argumentParts_emptied (inside : List Token) :
    argumentParts (emptied inside) = (argumentParts inside).map fun a => (a.1, emptied a.2) := by
  rw [argumentParts, splitArguments_emptied, List.filterMap_map, argumentParts, List.map_filterMap]
  congr 1
  funext part
  exact argumentPart_emptied part

end Fragments

def Construct.emptied : Construct → Construct
  | .copy token => .copy token.emptied
  | .name text => .name text
  | .duration amount seconds => .duration amount seconds
  | .clock reading => .clock reading
  | .test kind operand => .test kind (Action.emptied operand)
  | .call callee args => .call callee (args.map fun a => (a.1, Action.emptied a.2))
  | .member head selector further => .member head selector further

section Constructs

variable {t : Token}

theorem bridgeCall_emptied (ht : t.isIdent = true) (ts : List Token) :
    bridgeCall t.emptied (emptied ts) =
      (bridgeCall t ts).map fun c => (c.1.emptied, emptied c.2) := by
  rw [Token.emptied_of_ident ht]
  rcases ts with _ | ⟨colons, _ | ⟨op, after⟩⟩
  · rfl
  · rfl
  · rw [emptied_cons, emptied_cons, bridgeCall, bridgeCall, Token.isPunct_emptied,
      Token.isIdent_emptied, parenthesized_emptied]
    cases hguard : colons.isPunct "::" && op.isIdent with
    | false => rfl
    | true =>
      rw [Token.emptied_of_ident (Bool.and_eq_true_iff.1 hguard).2]
      cases parenthesized after with
      | none => rfl
      | some found =>
        exact congrArg (fun args => some (Construct.call (.bridge t.text op.text) args,
          emptied found.2)) (argumentParts_emptied found.1)

theorem functionCall_emptied (ts : List Token) :
    functionCall (emptied ts) = (functionCall ts).map fun c => (c.1.emptied, emptied c.2) := by
  cases ts with
  | nil => rfl
  | cons name after =>
    rw [emptied_cons, functionCall, functionCall, Token.isIdent_emptied, parenthesized_emptied]
    cases hguard : name.isIdent with
    | false => rfl
    | true =>
      rw [Token.emptied_of_ident hguard]
      cases parenthesized after with
      | none => rfl
      | some found =>
        exact congrArg (fun args => some (Construct.call (.function name.text) args,
          emptied found.2)) (argumentParts_emptied found.1)

theorem identConstruct_emptied (ht : t.isIdent = true) (ts : List Token) :
    identConstruct t.emptied (emptied ts) =
      ((identConstruct t ts).1.emptied, emptied (identConstruct t ts).2) := by
  unfold identConstruct
  rw [bridgeCall_emptied ht, operand_emptied, selectors_emptied, dropEmptyCall_emptied,
    Token.emptied_of_ident ht]
  cases clockReading t with
  | some reading => rfl
  | none =>
    cases emptinessTest t with
    | none =>
      cases bridgeCall t ts with
      | some found => rfl
      | none => rcases selectors ts with ⟨_ | ⟨first, further⟩, rest⟩ <;> rfl
    | some kind =>
      cases operand ts with
      | some found => rfl
      | none =>
        cases bridgeCall t ts with
        | some found => rfl
        | none => rcases selectors ts with ⟨_ | ⟨first, further⟩, rest⟩ <;> rfl

/-- The first construct of emptied tokens is that of the tokens, emptied. -/
theorem construct_emptied (t : Token) (ts : List Token) :
    construct t.emptied (emptied ts) =
      ((construct t ts).1.emptied, emptied (construct t ts).2) := by
  rw [construct, construct, Token.kind_emptied]
  cases hkind : t.kind with
  | number =>
    rw [durationUnit_emptied]
    cases durationUnit ts with
    | none => rfl
    | some found =>
      have hself : t.emptied = t := Token.emptied_eq_self (by rw [Token.isString, hkind]; rfl)
      rw [hself]
      rfl
  | ident => exact identConstruct_emptied (by rw [Token.isIdent, hkind]; rfl) ts
  | punct =>
    simp only [Token.isPunct_emptied, functionCall_emptied]
    split
    · cases functionCall ts with
      | none => rfl
      | some found => rfl
    · rfl
  | string => rfl
  | blank => rfl

end Constructs

end ExecutableUml.Action
