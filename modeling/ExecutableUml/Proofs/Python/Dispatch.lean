import ExecutableUml.Document.Model
import ExecutableUml.Proofs.Action.ForcedStates
import ExecutableUml.Proofs.Document.Transitions
import ExecutableUml.Proofs.Python.TableRows

/-! What the rows of a transition table do with events. The rows are assigned to the table one after
another, an event is looked up for the current state, and a guard may reject it. An instance that
sends an event to itself is put into the state that the first transition on the event leaves: there
the table always has that transition. -/

namespace ExecutableUml

open Text Document

namespace StateMachine

theorem eventOrigins_increasing (m : StateMachine) : Json.Increasing m.eventOrigins := by
  refine List.foldlRecOn (motive := Json.Increasing) m.transitions _ List.Pairwise.nil ?_
  intro origins ih t _
  split
  · exact ih
  · exact ih.insertField

/-- An origin that is entered first stays, so the first transition on the event counts. -/
theorem lookup_foldl_origins (ts : List Transition) (origins : List (String × String))
    (event : String) :
    (ts.foldl (fun origins t =>
        if origins.any fun o => o.1 == t.event then origins
        else Json.insertField t.event t.source origins) origins).lookup event =
      (origins.lookup event).or ((ts.find? fun t => t.event == event).map Transition.source) := by
  induction ts generalizing origins with
  | nil => simp
  | cons t ts ih =>
    rw [List.foldl_cons, ih]
    have hknown : (origins.any fun o => o.1 == t.event) = (origins.lookup t.event).isSome := by
      rw [Bool.eq_iff_iff, List.any_eq_true, List.lookup_isSome_iff]
      simp only [beq_iff_eq, eq_comm (a := t.event)]
    rw [hknown]
    by_cases hevent : t.event = event
    · subst hevent
      rw [List.find?_cons_of_pos (by simp)]
      cases hlookup : origins.lookup t.event with
      | none => simp [Json.lookup_insertField]
      | some origin => simp [hlookup]
    · rw [List.find?_cons_of_neg (by simpa using hevent)]
      split
      · rfl
      · rw [Json.lookup_insertField, if_neg (Ne.symm hevent)]

theorem lookup_eventOrigins (m : StateMachine) (event : String) :
    m.eventOrigins.lookup event = m.originOf event := by
  rw [eventOrigins, lookup_foldl_origins, List.lookup_nil, Option.none_or]
  rfl

theorem mem_eventOrigins_iff {m : StateMachine} {event state : String} :
    (event, state) ∈ m.eventOrigins ↔ m.originOf event = some state := by
  rw [← lookup_eventOrigins]
  refine ⟨fun h => ?_, mem_of_lookup⟩
  obtain ⟨found, hfound⟩ := Option.isSome_iff_exists.1
    (List.lookup_isSome_iff.2 ⟨(event, state), h, beq_self_eq_true event⟩)
  have hsame := m.eventOrigins_increasing.eq_of_key_eq h (mem_of_lookup hfound) rfl
  rw [hfound, (Prod.mk.inj hsame).2]

theorem originOf_eq_some_iff {m : StateMachine} {event state : String} :
    m.originOf event = some state ↔
      ∃ t, (m.transitions.find? fun t => t.event == event) = some t ∧ t.source = state := by
  rw [originOf, Option.map_eq_some_iff]

end StateMachine

namespace Python

/-- What comes of an event: no row is for it, a guard rejects it, or a transition is taken. -/
inductive Outcome where
  | ignored
  | rejected
  | taken (t : Transition)
deriving DecidableEq, Repr

/-- A transition without a target stays in the state. -/
def Outcome.stateAfter (state : String) : Outcome → String
  | .taken t => if t.target.isEmpty then state else t.target
  | _ => state

namespace TransitionRow

/-- The row that a table has for a state and an event after the rows were assigned to it in their
order: a later row replaces an earlier one. -/
def assigned (rows : List TransitionRow) (k : String × String) : Option TransitionRow :=
  rows.foldl (fun found row => if row.key == k then some row else found) none

/-- The transition of the row is taken if the guards that hold include its own. -/
def outcome (row : TransitionRow) (admits : String → Bool) : Outcome :=
  if row.transition.guard.all admits then .taken row.transition else .rejected

def dispatch (rows : List TransitionRow) (admits : String → Bool) (state event : String) :
    Outcome :=
  ((assigned rows (state, event)).map fun row => row.outcome admits).getD .ignored

/-- An event that reaches a machine, and the guards that hold when it does. -/
structure Occurrence where
  event : String
  admits : String → Bool

def run (rows : List TransitionRow) (state : String) (occurrences : List Occurrence) : String :=
  occurrences.foldl (fun state o => (dispatch rows o.admits state o.event).stateAfter state) state

theorem assigned_eq (rows : List TransitionRow) (k : String × String) :
    assigned rows k = rows.reverse.find? fun row => row.key == k := by
  have hfold : ∀ found : Option TransitionRow,
      rows.foldl (fun found row => if row.key == k then some row else found) found =
        (rows.reverse.find? fun row => row.key == k).or found := by
    induction rows with
    | nil => exact fun _ => rfl
    | cons row rows ih =>
      intro found
      rw [List.foldl_cons, ih, List.reverse_cons, List.find?_append, Option.or_assoc]
      cases hkey : row.key == k <;> simp [hkey]
  rw [assigned, hfold, Option.or_none]

theorem mem_of_assigned {rows : List TransitionRow} {k : String × String} {row : TransitionRow}
    (h : assigned rows k = some row) : row ∈ rows ∧ row.key = k := by
  rw [assigned_eq] at h
  exact ⟨List.mem_reverse.1 (List.mem_of_find?_eq_some h), by simpa using List.find?_some h⟩

/-- No row of a machine is lost to a later one. -/
theorem assigned_ofMachine {m : StateMachine} {row : TransitionRow} (h : row ∈ ofMachine m) :
    assigned (ofMachine m) row.key = some row := by
  have hkeys : ((ofMachine m).reverse.map key).Nodup := by
    rw [List.map_reverse]
    exact List.nodup_reverse.2 (keys_nodup m)
  rw [assigned_eq]
  exact find?_of_nodup hkeys (List.mem_reverse.2 h)

theorem dispatch_ofMachine {m : StateMachine} {row : TransitionRow} (h : row ∈ ofMachine m)
    (admits : String → Bool) :
    dispatch (ofMachine m) admits row.state row.transition.event = row.outcome admits := by
  have hrow := assigned_ofMachine h
  rw [key] at hrow
  rw [dispatch, hrow]
  rfl

theorem outcome_of_unguarded {row : TransitionRow} (h : row.transition.guard = none)
    (admits : String → Bool) : row.outcome admits = .taken row.transition := by
  rw [outcome, h]
  rfl

/-- The first transition on an event is the first one for its state and the event. -/
theorem exists_explicit_of_event {m : StateMachine} {event : String} {t : Transition}
    (h : (m.transitions.find? fun u => u.event == event) = some t) :
    ∃ row ∈ explicit m, row.key = (t.source, event) ∧ row.transition = t := by
  have hevent : t.event = event := by simpa using List.find?_some h
  obtain ⟨row, hrow, hkey, hfirst⟩ := exists_explicit (List.mem_of_find?_eq_some h)
  obtain ⟨-, before, after, hsplit, hbefore⟩ := List.find?_eq_some_iff_append.1 h
  have hskip : ∀ u ∈ before, ¬ (u.key == t.key) = true := by
    intro u hu hsame
    have hother := hbefore u hu
    rw [← hevent, ← (Prod.mk.inj (eq_of_beq hsame)).2] at hother
    simp at hother
  rw [hsplit, List.find?_append, List.find?_eq_none.2 hskip, Option.none_or,
    List.find?_cons_of_pos (by simp)] at hfirst
  exact ⟨row, hrow, by rw [hkey, Transition.key, hevent], (Option.some.inj hfirst).symm⟩

/-- How a machine handles an event that is generated to its own instance. -/
structure Handles (m : StateMachine) (event state : String) (row : TransitionRow) : Prop where
  origin : m.originOf event = some state
  /-- The code of the action forces the state. -/
  forced : ∀ (s : Action.Scope) (rendered : String),
    s.forcedOrigin m.eventOrigins event "self" rendered =
      [.simple (Action.Scope.forceStateLine s.ownerExpr ("'" ++ state ++ "'"))]
  mem : row ∈ ofMachine m
  explicit : row.aliasOf = none
  key_eq : row.key = (state, event)
  first : (m.transitions.find? fun t => t.event == event) = some row.transition
  dispatched : ∀ admits, dispatch (ofMachine m) admits state event = row.outcome admits
  /-- No guard stands in the way in the machines of documents. -/
  taken : ∀ doc, ∀ c ∈ (Model.ofDocument doc).classes, c.stateMachine = some m →
    ∀ admits, dispatch (ofMachine m) admits state event = .taken row.transition

theorem guard_eq_none {doc : Json} {c : Class} (hc : c ∈ (Model.ofDocument doc).classes)
    {m : StateMachine} (hm : c.stateMachine = some m) {t : Transition} (ht : t ∈ m.transitions) :
    t.guard = none := by
  obtain ⟨i, hi, pyNames, rfl⟩ := Model.exists_entry_of_mem hc
  obtain ⟨row, -, hrow⟩ := StateMachine.row_of_transition hm ht
  obtain ⟨_, -, _, -, -, rfl⟩ := Transition.mem_ofRow.1 hrow
  rfl

theorem handles_of_origin {m : StateMachine} {event state : String}
    (h : m.originOf event = some state) : ∃ row, Handles m event state row := by
  obtain ⟨t, hfirst, rfl⟩ := StateMachine.originOf_eq_some_iff.1 h
  obtain ⟨row, hrow, hkey, rfl⟩ := exists_explicit_of_event hfirst
  obtain ⟨hmem, halias⟩ := mem_explicit_iff.1 hrow
  have hdispatch : ∀ admits,
      dispatch (ofMachine m) admits row.transition.source event = row.outcome admits := by
    intro admits
    obtain ⟨hstate, hevent⟩ := Prod.mk.inj hkey
    rw [← hstate, ← hevent]
    exact dispatch_ofMachine hmem admits
  refine ⟨row, h, fun s rendered => ?_, hmem, halias, hkey, hfirst, hdispatch, ?_⟩
  · have hself : trimmed "self" = "self" := by decide +kernel
    exact Action.Scope.forcedOrigin_eq (.inl hself) ((m.lookup_eventOrigins event).trans h)
  · intro doc c hc hm admits
    rw [hdispatch, outcome_of_unguarded (guard_eq_none hc hm (transition_mem_ofMachine hmem))]

/-- An event has an origin exactly if a transition is on it, and forced into that state the machine
has the first of these transitions in the row for the event. -/
theorem forced_event_handled (m : StateMachine) (event : String) :
    ((∃ state, (event, state) ∈ m.eventOrigins) ↔ ∃ t ∈ m.transitions, t.event = event) ∧
      ∀ state, (event, state) ∈ m.eventOrigins ↔ ∃ row, Handles m event state row := by
  constructor
  · simp only [StateMachine.mem_eventOrigins_iff]
    rw [← Option.isSome_iff_exists, StateMachine.originOf, Option.isSome_map, List.find?_isSome]
    simp only [beq_iff_eq]
  · intro state
    rw [StateMachine.mem_eventOrigins_iff]
    constructor
    · exact handles_of_origin
    · rintro ⟨_, h⟩
      exact h.origin

end TransitionRow

end Python

end ExecutableUml
