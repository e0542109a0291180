import ExecutableUml.Action.Body
import ExecutableUml.Validation.Actions

/-! The notes that action code can bring. Expressions only note members; a line that is not
recognized and a class that is not known bring a note of their own, and both are faults. -/

namespace ExecutableUml

def Note.OnMember (n : Note) : Prop := n.kind = .unknownMember ∨ n.kind = .unresolvedReceiver

theorem Note.onMember_under {n : Note} (parent : String) : (n.under parent).OnMember ↔ n.OnMember :=
  Iff.rfl

def OnlyMembers (ns : List Note) : Prop := ∀ n ∈ ns, n.OnMember

namespace OnlyMembers

theorem nil : OnlyMembers [] := by simp [OnlyMembers]

theorem append {a b : List Note} (ha : OnlyMembers a) (hb : OnlyMembers b) :
    OnlyMembers (a ++ b) := by
  intro n hn
  rcases List.mem_append.1 hn with h | h
  · exact ha n h
  · exact hb n h

theorem flatMap {α : Type} {l : List α} {f : α → List Note} (h : ∀ a ∈ l, OnlyMembers (f a)) :
    OnlyMembers (l.flatMap f) := by
  intro n hn
  obtain ⟨a, ha, hf⟩ := List.mem_flatMap.1 hn
  exact h a ha n hf

theorem under {ns : List Note} (parent : String) (h : OnlyMembers ns) :
    OnlyMembers (ns.map (Note.under parent)) := by
  intro n hn
  obtain ⟨m, hm, rfl⟩ := List.mem_map.1 hn
  exact (Note.onMember_under parent).2 (h m hm)

end OnlyMembers

namespace Action

theorem Scope.checkMember_notes (s : Scope) (receiver : String) (f : Selector) :
    OnlyMembers (s.checkMember receiver f) := by
  unfold checkMember
  split
  · exact .nil
  · split
    · split
      · exact .nil
      · simp [OnlyMembers, Note.OnMember, Note.unknownMember]
    · exact .nil

theorem Scope.firstAccess_notes (s : Scope) (head : String) (f : Selector) :
    OnlyMembers (s.firstAccess head f).1.notes := by
  unfold firstAccess
  split
  · exact .nil
  split
  · exact .nil
  split
  · exact s.checkMember_notes head f
  split
  · exact s.checkMember_notes head f
  split
  · exact .nil
  split
  · exact .nil
  split
  · split
    · exact .nil
    · exact s.checkMember_notes head f
  · simp [OnlyMembers, Note.OnMember, Note.unresolvedReceiver]

theorem Rendered.argument_notes (name : Option String) (value : Rendered) :
    (value.argument name).notes = value.notes := by
  cases name <;> rfl

mutual

theorem Piece.render_notes (s : Scope) : ∀ p : Piece, OnlyMembers (p.render s).notes
  | .copy _ => .nil
  | .name _ => .nil
  | .duration _ _ => .nil
  | .clock _ => .nil
  | .test _ operand => by
    rw [Piece.render]
    exact renderPieces_notes s operand
  | .call _ args => by
    rw [Piece.render]
    exact renderActuals_notes s args
  | .member head selector further => by
    rw [Piece.render]
    exact s.firstAccess_notes head selector

theorem renderPieces_notes (s : Scope) : ∀ ps : List Piece, OnlyMembers (renderPieces s ps).notes
  | [] => .nil
  | p :: ps => by
    rw [renderPieces]
    exact (Piece.render_notes s p).append (renderPieces_notes s ps)

theorem Actual.render_notes (s : Scope) : ∀ a : Actual, OnlyMembers (a.render s).notes
  | .mk name value => by
    rw [Actual.render, Rendered.argument_notes]
    exact renderPieces_notes s value

theorem renderActuals_notes (s : Scope) :
    ∀ as : List Actual, OnlyMembers (renderActuals s as).notes
  | [] => .nil
  | a :: as => by
    rw [renderActuals]
    exact (Actual.render_notes s a).append (renderActuals_notes s as)

end

namespace Scope

theorem expression_notes (s : Scope) (text : String) : OnlyMembers (s.expression text).notes :=
  renderPieces_notes s _

theorem callArguments_notes (s : Scope) (args : List Argument) :
    OnlyMembers (s.callArguments args).notes := by
  induction args with
  | nil => exact .nil
  | cons a as ih =>
    rw [callArguments]
    refine OnlyMembers.append ?_ ih
    rw [Rendered.argument_notes]
    exact s.expression_notes a.value

theorem payloadEntries_notes (s : Scope) (place : Nat) (args : List Argument) :
    ∀ r ∈ s.payloadEntries place args, OnlyMembers r.notes := by
  induction args generalizing place with
  | nil => simp [payloadEntries]
  | cons a as ih =>
    intro r hr
    rcases List.mem_cons.1 hr with rfl | hr
    · exact s.expression_notes a.value
    · exact ih (place + 1) r hr

theorem payload_notes (s : Scope) (args : List Argument) : OnlyMembers (s.payload args).notes :=
  OnlyMembers.flatMap (s.payloadEntries_notes 0 args)

theorem selection_notes (s : Scope) (k : Cardinality) (var source first : String)
    (classRef cond : Option String) :
    OnlyMembers (s.selection k var source first classRef cond).notes := by
  unfold selection
  split
  · rename_i c
    have hc : OnlyMembers (s.condition var classRef c).notes := expression_notes _ c
    simp only
    split <;> exact hc
  · split <;> exact .nil

theorem classLiteral_notes {s : Scope} {classRef : String}
    (h : (s.symbols.resolve classRef).isSome = true) :
    OnlyMembers (s.classLiteral classRef).notes := by
  unfold classLiteral
  split
  · exact .nil
  · rename_i hn
    simp [hn] at h

@[simp] theorem assign_symbols (s : Scope) (var : String) (c : Option ClassSymbols) :
    (s.assign var c).symbols = s.symbols := rfl

theorem statement_symbols (s : Scope) (origins : List (String × String)) (text : String)
    (st : Statement) : (s.statement origins text st).scope.symbols = s.symbols := by
  unfold statement
  split <;> simp only [bind, bindLike, unbind, assign_symbols]

/-- A statement without faults only brings notes on members, if its classes are known. -/
theorem statement_notes {s : Scope} {refs : References} {st : Statement}
    (hs : ∀ r, refs.hasClass r = true → (s.symbols.resolve r).isSome = true)
    (hf : st.faults refs = []) (origins : List (String × String)) (text : String) :
    OnlyMembers (s.statement origins text st).notes := by
  cases st with
  | comment c => exact .nil
  | ifBegin c => exact s.expression_notes c
  | elseIf c => exact s.expression_notes c
  | elseBegin => exact .nil
  | ifEnd => exact .nil
  | forEach var collection => exact s.expression_notes collection
  | forEnd => exact .nil
  | whileBegin c => exact s.expression_notes c
  | whileEnd => exact .nil
  | breakLoop => exact .nil
  | continueLoop => exact .nil
  | returnValue value =>
    cases value with
    | none => exact .nil
    | some value => exact s.expression_notes value
  | selectInstances k var classRef cond =>
    have hc : refs.hasClass classRef = true := by
      simpa [Statement.faults, Statement.relationshipIds] using hf
    exact (classLiteral_notes (hs classRef hc)).append (s.selection_notes _ _ _ _ _ _)
  | selectRelated k var source hops cond => exact s.selection_notes _ _ _ _ _ _
  | createObject var classRef =>
    have hc : refs.hasClass classRef = true := by
      simpa [Statement.faults, Statement.relationshipIds] using hf
    exact classLiteral_notes (hs classRef hc)
  | deleteObject var => exact .nil
  | relate a b relId link => cases link <;> exact .nil
  | unrelate a b relId link => cases link <;> exact .nil
  | unrelateNavigated a source hop relId => exact .nil
  | send message args target => exact s.payload_notes args
  | createEvent var keyLetters label args target =>
    exact (s.payload_notes args).append (s.expression_notes target)
  | generate keyLetters event args target =>
    exact (s.payload_notes args).append (s.expression_notes target)
  | generateInstance var => exact .nil
  | bridgeCall entity operation args => exact s.callArguments_notes args
  | functionCall name args => exact s.callArguments_notes args
  | methodCall object method args => exact s.callArguments_notes args
  | assign target value =>
    rcases target with name | ⟨object, name⟩
    · exact s.expression_notes value
    · exact (s.expression_notes value).append (s.checkMember_notes _ _)
  | unrecognized line => simp [Statement.faults] at hf

theorem body_notes {s : Scope} {refs : References} {ls : List BodyLine}
    (hs : ∀ r, refs.hasClass r = true → (s.symbols.resolve r).isSome = true)
    (hf : ∀ l ∈ ls, l.statement.faults refs = []) (origins : List (String × String)) :
    OnlyMembers (s.body origins ls).2 := by
  induction ls generalizing s with
  | nil => exact .nil
  | cons l ls ih =>
    rw [body]
    refine OnlyMembers.append (.under _ (statement_notes hs (hf l List.mem_cons_self) _ _)) ?_
    refine ih ?_ fun l' hl' => hf l' (List.mem_cons_of_mem l hl')
    rw [statement_symbols]
    exact hs

end Scope

end Action

end ExecutableUml
