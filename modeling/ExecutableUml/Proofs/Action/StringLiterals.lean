import ExecutableUml.Action.Rendering
import ExecutableUml.Proofs.Action.EmptiedLiterals

/-! String literals of an expression go into its code as they are. The pieces of an expression copy
every string token of its text once, in the order of the text and at whatever depth of calls. The
code is these copies with glue between them, and the glue is the same whatever the literals say. -/

namespace ExecutableUml.Action

open Text

def strings (ts : List Token) : List Token := ts.filter Token.isString

theorem strings_append (ts us : List Token) : strings (ts ++ us) = strings ts ++ strings us :=
  List.filter_append ..

theorem NoStrings.strings_eq {ts : List Token} (h : NoStrings ts) : strings ts = [] := by
  rw [strings, List.filter_eq_nil_iff]
  intro t ht
  rw [h t ht]
  exact Bool.false_ne_true

theorem strings_fragment (ts : List Token) : strings (fragment ts) = strings ts := by
  obtain ⟨before, after, hts, hbefore, hafter⟩ := fragment_takes ts
  have h := congrArg strings hts
  rw [strings_append, strings_append, hbefore.strings_eq, hafter.strings_eq] at h
  simpa using h.symm

theorem strings_argumentPart (part : List Token) :
    (argumentPart part).toList.flatMap (fun a => strings a.2) = strings part := by
  rw [argumentPart_eq]
  cases hsource : argumentSource part with
  | none => exact (argumentSource_none hsource).strings_eq.symm
  | some source =>
    obtain ⟨name, value⟩ := source
    obtain ⟨before, after, hpart, hbefore, hafter⟩ := argumentSource_takes hsource
    rw [hpart, strings_append, strings_append, hbefore.strings_eq, hafter.strings_eq]
    simp [strings_fragment]

theorem strings_filterMap (parts : List (List Token)) :
    (parts.filterMap argumentPart).flatMap (fun a => strings a.2) = parts.flatMap strings := by
  induction parts with
  | nil => rfl
  | cons part parts ih =>
    have hpart := strings_argumentPart part
    cases h : argumentPart part with
    | none =>
      rw [List.filterMap_cons_none h, List.flatMap_cons, ih, ← hpart, h]
      rfl
    | some a =>
      rw [List.filterMap_cons_some h, List.flatMap_cons, List.flatMap_cons, ih, ← hpart, h]
      simp

theorem Parted.strings_eq {ts : List Token} {parts : List (List Token)}
    (h : Parted (·.isPunct ",") ts parts) : parts.flatMap strings = strings ts := by
  induction h with
  | whole ts => rw [List.flatMap_cons, List.flatMap_nil, List.append_nil]
  | next hc h ih =>
    rw [List.flatMap_cons, ih, strings_append, ← List.singleton_append, strings_append,
      NoStrings.strings_eq (.cons (Token.isString_of_punct hc) .nil), List.nil_append]

/-- The literals in the values of the arguments are those in the list of them. -/
theorem strings_argumentParts (inside : List Token) :
    (argumentParts inside).flatMap (fun a => strings a.2) = strings inside := by
  rw [argumentParts, strings_filterMap]
  exact (parted_splitArguments 0 inside).strings_eq

mutual

/-- The string literals that the code of a piece copies, as often as it writes them. -/
def Piece.literals : Piece → List Token
  | .copy token => strings [token]
  | .test kind operand =>
    match kind with
    | .cardinality => literals operand ++ literals operand
    | _ => literals operand
  | .call _ args => actualLiterals args
  | _ => []

def literals : List Piece → List Token
  | [] => []
  | p :: ps => p.literals ++ literals ps

def Actual.literals : Actual → List Token
  | .mk _ value => literals value

def actualLiterals : List Actual → List Token
  | [] => []
  | a :: as => a.literals ++ actualLiterals as

end

theorem actualLiterals_map (args : List (Option String × List Token)) :
    actualLiterals (args.map fun a => .mk a.1 (pieces a.2)) =
      args.flatMap fun a => literals (pieces a.2) := by
  induction args with
  | nil => rfl
  | cons a args ih => rw [List.map_cons, actualLiterals, ih, Actual.literals, List.flatMap_cons]

/-- The induction is on the number of tokens: operands and what follows a construct are shorter. -/
theorem literals_pieces (ts : List Token) : literals (pieces ts) = strings ts := by
  induction hn : ts.length using Nat.strongRecOn generalizing ts with
  | ind n ih =>
    subst hn
    cases ts with
    | nil =>
      rw [pieces_nil]
      rfl
    | cons t ts =>
      have htakes := construct_takes t ts
      have hfits := construct_fits t ts
      rw [pieces_cons, literals]
      generalize construct t ts = c at *
      have hrest : literals (pieces c.2) = strings c.2 :=
        ih _ (Nat.lt_succ_of_le hfits.1) c.2 rfl
      rw [hrest]
      cases htakes with
      | copy => exact (strings_append [t] ts).symm
      | @leaf c taken rest hc hts ht =>
        have hnone : c.piece.literals = [] := by
          cases c with
          | copy | test | call => cases hc
          | _ => rfl
        rw [hnone, hts, ← List.cons_append, strings_append, ht.strings_eq]
      | @test kind gap operand rest hts ht =>
        have hoperand : literals (pieces operand) = [] := by
          rw [ih _ (Nat.lt_succ_of_le (hfits.2 operand List.mem_cons_self)) operand rfl]
          exact NoStrings.strings_eq fun u hu => ht u (by simp [hu])
        have hnone : (Piece.test kind (pieces operand)).literals = [] := by
          cases kind <;> simp [Piece.literals, hoperand]
        rw [Construct.piece, hnone, hts, ← List.cons_append, ← List.cons_append, strings_append,
          ht.strings_eq]
      | @call callee opening inside rest close hts ht hclose =>
        have hargs : ∀ a ∈ argumentParts inside, literals (pieces a.2) = strings a.2 :=
          fun a ha => ih _ (Nat.lt_succ_of_le (hfits.2 a.2 (List.mem_map_of_mem ha))) a.2 rfl
        have hinside : (argumentParts inside).flatMap (fun a => literals (pieces a.2)) =
            strings inside := by
          rw [← strings_argumentParts, List.flatMap_def, List.flatMap_def,
            List.map_congr_left hargs]
        have hclosed : strings (close :: rest) = strings rest := by
          rw [← List.singleton_append, strings_append,
            NoStrings.strings_eq (.cons (Token.isString_of_punct hclose) .nil), List.nil_append]
        rw [Construct.piece, Piece.literals, actualLiterals_map, hinside, hts, ← List.cons_append,
          strings_append, strings_append, ht.strings_eq, hclosed, List.nil_append]

/-- `first`, then the first of the texts and the glue behind it, then the next one and so on. -/
def interleaved (first : String) : List String → List String → String
  | text :: texts, glue :: behind => first ++ text ++ interleaved glue texts behind
  | _, _ => first

theorem interleaved_append (before first : String) (texts behind : List String) :
    interleaved (before ++ first) texts behind = before ++ interleaved first texts behind := by
  cases texts with
  | nil => rfl
  | cons text texts =>
    cases behind with
    | nil => rfl
    | cons glue behind => simp only [interleaved, String.append_assoc]

/-- Code without its literals: what stands before the first one, and behind each of them. -/
structure Frame where
  first : String
  behind : List String

namespace Frame

def glue (text : String) : Frame := ⟨text, []⟩

def hole : Frame := ⟨"", [""]⟩

/-- The last glue of the one frame and the first one of the other become one. -/
def appendFrom (first : String) (next : Frame) : List String → Frame
  | [] => ⟨first ++ next.first, next.behind⟩
  | glue :: behind =>
    let rest := appendFrom glue next behind
    ⟨first, rest.first :: rest.behind⟩

def append (f next : Frame) : Frame := appendFrom f.first next f.behind

theorem interleaved_appendFrom (first : String) (next : Frame) {behind texts : List String}
    (h : texts.length = behind.length) (more : List String) :
    interleaved (appendFrom first next behind).first (texts ++ more)
        (appendFrom first next behind).behind =
      interleaved first texts behind ++ interleaved next.first more next.behind := by
  induction behind generalizing first texts with
  | nil =>
    obtain rfl := List.length_eq_zero_iff.1 h
    exact interleaved_append first next.first more next.behind
  | cons glue behind ih =>
    cases texts with
    | nil => cases h
    | cons text texts =>
      have hrest := congrArg (first ++ text ++ ·) (ih glue (Nat.succ.inj h))
      exact hrest.trans String.append_assoc.symm

theorem length_appendFrom (first : String) (next : Frame) (behind : List String) :
    (appendFrom first next behind).behind.length = behind.length + next.behind.length := by
  induction behind generalizing first with
  | nil => simp [appendFrom]
  | cons glue behind ih =>
    rw [appendFrom, List.length_cons, ih, List.length_cons]
    omega

/-- The frame has a hole for each literal, and gives the code with these filled in. -/
structure Gives (f : Frame) (ls : List Token) (code : String) : Prop where
  holes : f.behind.length = ls.length
  code : interleaved f.first (ls.map Token.text) f.behind = code

namespace Gives

theorem glue (text : String) : Gives (glue text) [] text := ⟨rfl, rfl⟩

theorem append {f g : Frame} {ls ms : List Token} {a b : String} (hf : Gives f ls a)
    (hg : Gives g ms b) : Gives (f.append g) (ls ++ ms) (a ++ b) where
  holes := by rw [Frame.append, length_appendFrom, hf.holes, hg.holes, List.length_append]
  code := by
    rw [Frame.append, List.map_append,
      interleaved_appendFrom f.first g (by rw [List.length_map, hf.holes]), hf.code, hg.code]

theorem behind {f : Frame} {ls : List Token} {code : String} (before : String)
    (h : Gives f ls code) : Gives ((Frame.glue before).append f) ls (before ++ code) :=
  (Gives.glue before).append h

theorem before {f : Frame} {ls : List Token} {code : String} (h : Gives f ls code)
    (after : String) : Gives (f.append (Frame.glue after)) ls (code ++ after) := by
  have hboth := h.append (Gives.glue after)
  rwa [List.append_nil] at hboth

end Gives

end Frame

open ExecutableUml.Action.Frame

def Token.frame (t : Token) : Frame := if t.isString then hole else glue t.text

theorem Token.frame_emptied (t : Token) : t.emptied.frame = t.frame := by
  cases h : t.isString with
  | false => rw [emptied_eq_self h]
  | true => rw [Token.frame, Token.frame, isString_emptied, h, if_pos rfl, if_pos rfl]

theorem Token.frame_gives (t : Token) : Gives t.frame (strings [t]) t.text := by
  cases h : t.isString with
  | false =>
    rw [NoStrings.strings_eq (.cons h .nil), Token.frame, h]
    exact .glue t.text
  | true =>
    have hself : strings [t] = [t] := List.filter_cons_of_pos h
    rw [hself, Token.frame, h]
    exact ⟨rfl, by simp [hole, interleaved]⟩

def EmptinessTest.frame (operand : Frame) : EmptinessTest → Frame
  | .notEmpty => operand.append (glue " is not None")
  | .empty => operand.append (glue " is None")
  | .cardinality =>
    ((((glue "len(").append operand).append (glue " if ")).append operand).append
      (glue " else [])")

def argumentOpening : Option String → String
  | some name => ", " ++ name ++ "="
  | none => ", "

mutual

def Piece.frame (scope : Scope) : Piece → Frame
  | .copy token => token.frame
  | .name text => glue (scope.nameText text)
  | .duration amount seconds => glue ("(" ++ amount ++ " * " ++ toString seconds ++ ")")
  | .clock reading => glue reading.text
  | .test kind operand => kind.frame (piecesFrame scope operand)
  | .call callee args =>
    ((glue callee.opening).append (actualsFrame scope args)).append (glue ")")
  | .member head selector further => glue (scope.memberAccess head selector further).text

def piecesFrame (scope : Scope) : List Piece → Frame
  | [] => glue ""
  | p :: ps => (p.frame scope).append (piecesFrame scope ps)

def Actual.frame (scope : Scope) : Actual → Frame
  | .mk name value => (glue (argumentOpening name)).append (piecesFrame scope value)

def actualsFrame (scope : Scope) : List Actual → Frame
  | [] => glue ""
  | a :: as => (a.frame scope).append (actualsFrame scope as)

end

/-- The cardinality of an operand is the only code that writes it twice. -/
theorem Frame.Gives.test {operand : List Piece} {f : Frame} {inner : String} (kind : EmptinessTest)
    (h : Gives f (literals operand) inner) :
    Gives (kind.frame f) (Piece.test kind operand).literals (kind.text inner) := by
  cases kind with
  | notEmpty => exact h.before _
  | empty => exact h.before _
  | cardinality => exact (((h.behind "len(").before " if ").append h).before " else [])"

mutual

theorem Piece.frame_gives (scope : Scope) :
    ∀ p : Piece, Gives (p.frame scope) p.literals (p.render scope).text
  | .copy token => token.frame_gives
  | .name _ => .glue _
  | .duration _ _ => .glue _
  | .clock _ => .glue _
  | .test kind operand => by
    rw [Piece.render, Piece.frame]
    exact (piecesFrame_gives scope operand).test kind
  | .call callee args => by
    rw [Piece.render, Piece.frame, Piece.literals]
    exact ((actualsFrame_gives scope args).behind callee.opening).before ")"
  | .member _ _ _ => .glue _

theorem piecesFrame_gives (scope : Scope) :
    ∀ ps : List Piece, Gives (piecesFrame scope ps) (literals ps) (renderPieces scope ps).text
  | [] => .glue ""
  | p :: ps => by
    rw [renderPieces, piecesFrame, literals]
    exact (Piece.frame_gives scope p).append (piecesFrame_gives scope ps)

theorem Actual.frame_gives (scope : Scope) :
    ∀ a : Actual, Gives (a.frame scope) a.literals (a.render scope).text
  | .mk name value => by
    rw [Actual.render, Actual.frame, Actual.literals]
    have hvalue := (piecesFrame_gives scope value).behind (argumentOpening name)
    cases name with
    | none => exact hvalue
    | some name => exact hvalue

theorem actualsFrame_gives (scope : Scope) :
    ∀ as : List Actual, Gives (actualsFrame scope as) (actualLiterals as)
      (renderActuals scope as).text
  | [] => .glue ""
  | a :: as => by
    rw [renderActuals, actualsFrame, actualLiterals]
    exact (Actual.frame_gives scope a).append (actualsFrame_gives scope as)

end

theorem actualsFrame_congr (scope : Scope) {args : List (Option String × List Token)}
    (h : ∀ a ∈ args, piecesFrame scope (pieces (emptied a.2)) = piecesFrame scope (pieces a.2)) :
    actualsFrame scope ((args.map fun a => (a.1, emptied a.2)).map fun a => .mk a.1 (pieces a.2)) =
      actualsFrame scope (args.map fun a => .mk a.1 (pieces a.2)) := by
  induction args with
  | nil => rfl
  | cons a args ih =>
    obtain ⟨ha, hargs⟩ := List.forall_mem_cons.1 h
    rw [List.map_cons, List.map_cons, List.map_cons, actualsFrame, actualsFrame, ih hargs,
      Actual.frame, Actual.frame, ha]

/-- The glue does not depend on what the literals say. The induction is on the number of tokens, as
that of `literals_pieces`. -/
theorem piecesFrame_emptied (scope : Scope) (ts : List Token) :
    piecesFrame scope (pieces (emptied ts)) = piecesFrame scope (pieces ts) := by
  induction hn : ts.length using Nat.strongRecOn generalizing ts with
  | ind n ih =>
    subst hn
    cases ts with
    | nil => rfl
    | cons t ts =>
      obtain ⟨hrest, hinner⟩ := construct_fits t ts
      rw [emptied_cons, pieces_cons, pieces_cons, construct_emptied, piecesFrame, piecesFrame,
        ih _ (Nat.lt_succ_of_le hrest) _ rfl]
      congr 1
      generalize (construct t ts).1 = c at *
      cases c with
      | copy token => exact token.frame_emptied
      | test kind operand =>
        rw [Construct.emptied, Construct.piece, Construct.piece, Piece.frame, Piece.frame,
          ih _ (Nat.lt_succ_of_le (hinner operand List.mem_cons_self)) _ rfl]
      | call callee args =>
        have hargs := actualsFrame_congr scope fun a (ha : a ∈ args) =>
          ih _ (Nat.lt_succ_of_le (hinner a.2 (List.mem_map_of_mem ha))) a.2 rfl
        rw [Construct.emptied, Construct.piece, Construct.piece, Piece.frame, Piece.frame, hargs]
      | name | duration | clock | member => rfl

/-- For every scope, the pieces of an expression copy the string tokens of its text, each as often
as it stands there. The code is these tokens with glue between them, and the glue is the same for
every text that differs in what its literals say and in nothing else. -/
theorem expression_keeps_literals (scope : Scope) (text : String) :
    literals (parseExpression text) = strings (tokens (trim text.toList)) ∧
      ∃ (first : String) (behind : List String), ∀ other : String,
        emptied (tokens (trim other.toList)) = emptied (tokens (trim text.toList)) →
        behind.length = (strings (tokens (trim other.toList))).length ∧
          (scope.expression other).text =
            interleaved first ((strings (tokens (trim other.toList))).map Token.text) behind := by
  have hliterals : ∀ text : String,
      literals (parseExpression text) = strings (tokens (trim text.toList)) := by
    intro text
    rw [parseExpression, literals_pieces, strings_fragment]
  have hgives : ∀ text : String, Gives (piecesFrame scope (parseExpression text))
      (strings (tokens (trim text.toList))) (scope.expression text).text := by
    intro text
    rw [← hliterals]
    exact piecesFrame_gives scope (parseExpression text)
  have hframe : ∀ text : String, piecesFrame scope (parseExpression text) =
      piecesFrame scope (pieces (fragment (emptied (tokens (trim text.toList))))) := by
    intro text
    rw [fragment_emptied, piecesFrame_emptied, parseExpression]
  refine ⟨hliterals text, (piecesFrame scope (parseExpression text)).first,
    (piecesFrame scope (parseExpression text)).behind, fun other hother => ?_⟩
  have hsame : piecesFrame scope (parseExpression other) =
      piecesFrame scope (parseExpression text) := by rw [hframe other, hother, ← hframe text]
  have hother := hgives other
  rw [hsame] at hother
  exact ⟨hother.holes, hother.code.symm⟩

def nestedCall (message level : String) : String :=
  "LOG::info(message: " ++ message ++ ", level: ::pick(" ++ level ++ "));"

theorem nestedCall_literals_kept :
    emptied (tokens (trim (nestedCall "'c,'" "\";\"").toList)) =
        emptied (tokens (trim (nestedCall "\"a, b\"" "'::x('").toList)) ∧
      ∃ (first : String) (behind : List String),
        compileExpression (nestedCall "\"a, b\"" "'::x('") =
          interleaved first ["\"a, b\"", "'::x('"] behind ∧
        compileExpression (nestedCall "'c,'" "\";\"") =
          interleaved first ["'c,'", "\";\""] behind := by
  have hsame : emptied (tokens (trim (nestedCall "'c,'" "\";\"").toList)) =
      emptied (tokens (trim (nestedCall "\"a, b\"" "'::x('").toList)) := by decide +kernel
  have hstrings : (strings (tokens (trim (nestedCall "\"a, b\"" "'::x('").toList))).map
      Token.text = ["\"a, b\"", "'::x('"] := by decide +kernel
  have hothers : (strings (tokens (trim (nestedCall "'c,'" "\";\"").toList))).map
      Token.text = ["'c,'", "\";\""] := by decide +kernel
  obtain ⟨-, first, behind, hall⟩ :=
    expression_keeps_literals (Scope.ofOwner .empty none "owner") (nestedCall "\"a, b\"" "'::x('")
  have htext := (hall _ rfl).2
  have hother := (hall _ hsame).2
  rw [hstrings] at htext
  rw [hothers] at hother
  exact ⟨hsame, first, behind, htext, hother⟩

end ExecutableUml.Action
