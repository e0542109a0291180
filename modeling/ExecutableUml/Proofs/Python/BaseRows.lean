import ExecutableUml.Proofs.Execution.BaseStates
import ExecutableUml.Proofs.Python.TransitionTable
import ExecutableUml.Validation.Actions

/-! Two tables for one state machine: the rows of the generated code and the table that is executed.
Both let a declared state react like its variants where it has no transition of its own. The rows
take the variant whose transition is declared first, and the table takes the one that sorts first,
so the two agree exactly where these lead to the same state. -/

namespace ExecutableUml

open Execution

def Transition.key (t : Transition) : String × String := (t.source, t.event)

/-- The table that the machine is executed by, with the code that its transitions stand for. -/
def StateMachine.executed {L : Language} (m : StateMachine) (guard : Transition → Option L.Guard)
    (action : Transition → Option L.Action) : TransitionTable L :=
  (TransitionTable.ofRows (m.transitions.map fun t =>
    ⟨t.source, t.event, ⟨t.target, guard t, action t⟩⟩)).withBaseStates (m.states.map State.name)

theorem StateMachine.hasState_iff {m : StateMachine} {name : String} :
    m.hasState name = true ↔ name ∈ m.states.map State.name := by
  simp [hasState]

/-- Where the executed table leads from a state on an event. -/
theorem StateMachine.executed_next {L : Language} (m : StateMachine)
    (guard : Transition → Option L.Guard) (action : Transition → Option L.Action)
    (state event : String) :
    ((m.executed guard action).get? state event).map Reaction.next =
      ((m.transitions.find? fun t => t.key == (state, event)).or
        (if m.hasState state then leastLender Transition.key state event m.transitions
          else none)).map Transition.target := by
  rw [executed, TransitionTable.get?_ofRows_withBaseStates, Option.map_or, Option.map_or,
    leastLender_map, List.find?_map]
  congr 1
  · rw [Option.map_map, Option.map_map]
    rfl
  · by_cases hdeclared : m.hasState state = true
    · rw [if_pos hdeclared, if_pos (hasState_iff.1 hdeclared), Option.map_map, Option.map_map]
      rfl
    · rw [if_neg hdeclared, if_neg (mt hasState_iff.2 hdeclared)]
      rfl

namespace Python.TransitionRow

def key (row : TransitionRow) : String × String := (row.state, row.transition.event)

def nextState (rows : List TransitionRow) (state event : String) : Option String :=
  (rows.find? fun row => row.key == (state, event)).map (·.transition.target)

theorem find?_withMethods (p : String → Transition → Bool) (taken : List String)
    (ts : List Transition) :
    ((withMethods taken ts).find? fun row => p row.state row.transition).map
      (·.transition) = ts.find? fun t => p t.source t := by
  induction ts generalizing taken with
  | nil => rfl
  | cons t ts ih =>
    rw [withMethods]
    split
    · cases hp : p t.source t <;> simp [hp, ih]
    · cases hp : p t.source t <;> simp [hp, ih]

/-- A search by states and events finds in the explicit rows what it finds in the transitions. -/
theorem find?_explicit (m : StateMachine) (p : String × String → Bool) :
    ((explicit m).find? fun row => p row.key).map (·.transition) =
      m.transitions.find? fun t => p t.key := by
  have hsame : ∀ t u : Transition, sameTrigger t u = true → p t.key = p u.key := by
    intro t u htu
    simp only [sameTrigger, Bool.and_eq_true, beq_iff_eq] at htu
    rw [Transition.key, Transition.key, htu.1, htu.2]
  have hrows := find?_withMethods (fun state t => p (state, t.event)) [] (distinct sameTrigger m.transitions)
  exact hrows.trans (find?_distinctFrom hsame (by simp) m.transitions)

theorem aliasRow_eq (m : StateMachine) (row : TransitionRow) :
    aliasRow m row = ((baseName? row.state).filter m.hasState).map fun base =>
      { row with state := base, aliasOf := some row.state } := by
  unfold aliasRow baseName?
  cases Text.cutAtChar '_' row.state.toList with
  | none => rfl
  | some cut =>
    obtain ⟨base, rest⟩ := cut
    change (guard (!base.isEmpty && m.hasState (String.ofList base)) : Option Unit).bind _ =
      ((if base.isEmpty then none else some (String.ofList base)).filter m.hasState).map _
    cases base.isEmpty with
    | true => rfl
    | false =>
      change (guard (m.hasState (String.ofList base)) : Option Unit).bind _ =
        ((some (String.ofList base)).filter m.hasState).map _
      rw [Option.filter_some]
      cases m.hasState (String.ofList base) <;> rfl

/-- A row is taken over for a state and an event if it can be lent to them and the state is
declared. -/
theorem aliasRow_any (m : StateMachine) (row : TransitionRow) (state event : String) :
    (aliasRow m row).any (fun r => r.key == (state, event)) =
      (m.hasState state && lends state event row.key) := by
  rw [aliasRow_eq, Option.any_map, Bool.eq_iff_iff, Bool.and_eq_true, lends_iff,
    Option.any_eq_true]
  simp only [Option.filter_eq_some_iff, key, beq_iff_eq, Prod.mk.injEq]
  constructor
  · rintro ⟨base, ⟨hbase, hstate⟩, rfl, hevent⟩
    exact ⟨hstate, hevent, hbase⟩
  · rintro ⟨hstate, hevent, hbase⟩
    exact ⟨state, ⟨hbase, hstate⟩, rfl, hevent⟩

/-- The rows that are taken over have the first transition that can be lent. -/
theorem find?_aliasRows (m : StateMachine) (state event : String) :
    (((explicit m).filterMap (aliasRow m)).find? fun row => row.key == (state, event)).map
        (·.transition) =
      if m.hasState state then firstLender Transition.key state event m.transitions else none := by
  rw [List.find?_filterMap]
  simp only [aliasRow_any]
  cases hstate : m.hasState state with
  | false =>
    have hnone : (explicit m).find? (fun row => false && lends state event row.key) = none :=
      List.find?_eq_none.2 fun _ _ => by simp
    rw [hnone]
    rfl
  | true =>
    have hlender := find?_explicit m (lends state event)
    simp only [Bool.true_and, if_true, firstLender]
    rw [← hlender]
    cases hrow : (explicit m).find? fun row => lends state event row.key with
    | none => rfl
    | some row =>
      have hany := aliasRow_any m row state event
      rw [hstate, List.find?_some hrow] at hany
      obtain ⟨taken, htaken, -⟩ := (Option.any_eq_true _ _).1 hany
      rw [Option.bind_some, htaken, Option.map_some, aliasRow_transition htaken]
      rfl

/-- The first row for a state and an event has their first transition, or the first that can be lent
to them. -/
theorem find?_ofMachine (m : StateMachine) (state event : String) :
    ((ofMachine m).find? fun row => row.key == (state, event)).map (·.transition) =
      (m.transitions.find? fun t => t.key == (state, event)).or
        (if m.hasState state then firstLender Transition.key state event m.transitions
          else none) := by
  have hexplicit := find?_explicit m (fun key => key == (state, event))
  rw [ofMachine, List.find?_append]
  cases hfound : (explicit m).find? fun row => row.key == (state, event) with
  | some row =>
    rw [hfound] at hexplicit
    rw [← hexplicit]
    rfl
  | none =>
    rw [hfound] at hexplicit
    rw [← hexplicit, Option.map_none, Option.none_or, Option.none_or]
    have hsame : ∀ a b : TransitionRow, sameKey a b = true →
        (a.key == (state, event)) = (b.key == (state, event)) := by
      intro a b hab
      simp only [sameKey, Bool.and_eq_true, beq_iff_eq] at hab
      rw [key, key, hab.1, hab.2]
    have hnew : ∀ row ∈ explicit m, (row.key == (state, event)) = false := fun row hrow =>
      Bool.eq_false_iff.2 (List.find?_eq_none.1 hfound row hrow)
    rw [find?_distinctFrom hsame hnew]
    exact find?_aliasRows m state event

/-- Where the generated rows lead from a state on an event. -/
theorem nextState_ofMachine (m : StateMachine) (state event : String) :
    nextState (ofMachine m) state event =
      ((m.transitions.find? fun t => t.key == (state, event)).or
        (if m.hasState state then firstLender Transition.key state event m.transitions
          else none)).map Transition.target := by
  rw [nextState, ← find?_ofMachine, Option.map_map]
  rfl

end Python.TransitionRow

open Python

/-- The generated rows and the executed table lead from a state on an event to the same state,
unless the state is declared, has no transition of its own on the event, and the transition of a
variant that is declared first leads elsewhere than that of the variant that sorts first. -/
theorem StateMachine.nextState_eq_executed_iff {L : Language} (m : StateMachine)
    (guard : Transition → Option L.Guard) (action : Transition → Option L.Action)
    (state event : String) :
    TransitionRow.nextState (TransitionRow.ofMachine m) state event =
        ((m.executed guard action).get? state event).map Reaction.next ↔
      (m.hasState state = true → (∀ t ∈ m.transitions, t.key ≠ (state, event)) →
        (firstLender Transition.key state event m.transitions).map Transition.target =
          (leastLender Transition.key state event m.transitions).map Transition.target) := by
  rw [TransitionRow.nextState_ofMachine, executed_next]
  cases hown : m.transitions.find? fun t => t.key == (state, event) with
  | some t =>
    refine iff_of_true rfl fun _ hnone => ?_
    have hkey := List.find?_some hown
    exact absurd (eq_of_beq hkey) (hnone t (List.mem_of_find?_eq_some hown))
  | none =>
    have hnone : ∀ t ∈ m.transitions, t.key ≠ (state, event) := fun t ht =>
      by simpa using List.find?_eq_none.1 hown t ht
    rw [Option.none_or, Option.none_or]
    cases m.hasState state with
    | false => simp
    | true =>
      simp only [if_true, forall_const]
      exact ⟨fun hsame _ => hsame, fun hsame => hsame hnone⟩

namespace Document

def liftDocument : Json := .object [
  ("events", .array [.object [("class_id", .string "LI"), ("event_name", .string "Stop")]]),
  ("model", .array [.object [("KL", .string "LI"), ("class_id", .string "1"),
    ("class_name", .string "Lift"),
    ("states", .array [
      .object [("state_name", .string "Moving")],
      .object [("next_state", .string "Resting"), ("state_event", .string "Stop"),
        ("state_name", .string "Moving_Up")],
      .object [("next_state", .string "Blocked"), ("state_event", .string "Stop"),
        ("state_name", .string "Moving_Down")],
      .object [("state_name", .string "Resting")],
      .object [("state_name", .string "Blocked")]])]])]

/-- A moving lift that is stopped rests according to the generated rows, and is blocked according to
the executed table. -/
theorem lift_tables_differ :
    issues liftDocument = [] ∧
    ∃ c ∈ (Model.ofDocument liftDocument).classes, ∃ m, c.stateMachine = some m ∧
      TransitionRow.nextState (TransitionRow.ofMachine m) "Moving" "Stop" = some "Resting" ∧
      ∀ (L : Language) (guard : Transition → Option L.Guard)
        (action : Transition → Option L.Action),
        ((m.executed guard action).get? "Moving" "Stop").map Reaction.next = some "Blocked" := by
  have hmachine : (Model.ofDocument liftDocument).classes.map (fun c => c.stateMachine.map fun m =>
      (TransitionRow.nextState (TransitionRow.ofMachine m) "Moving" "Stop",
        ((m.transitions.find? fun t => t.key == ("Moving", "Stop")).or
          (if m.hasState "Moving" then leastLender Transition.key "Moving" "Stop" m.transitions
            else none)).map Transition.target)) = [some (some "Resting", some "Blocked")] := by
    decide +kernel
  obtain ⟨c, hc, hm⟩ := List.mem_map.1 (hmachine ▸ List.mem_singleton.2 rfl)
  obtain ⟨m, hm, hnext⟩ := Option.map_eq_some_iff.1 hm
  obtain ⟨hrows, htable⟩ := Prod.mk.inj hnext
  refine ⟨by decide +kernel, c, hc, m, hm, hrows, fun L guard action => ?_⟩
  rw [StateMachine.executed_next, htable]

end Document

end ExecutableUml
