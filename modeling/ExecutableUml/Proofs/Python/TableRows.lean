import ExecutableUml.Proofs.Python.BaseRows
import ExecutableUml.Proofs.Python.WellFormedNames

/-! The rows of a transition table. Every state and event has at most one row, the row has the first
transition that counts for them, and the methods that rows name are those of the transitions that do
something. -/

namespace ExecutableUml

open Text Execution

/-- The transition is for the event and leaves a state whose name goes on behind an underscore. -/
def Transition.leavesVariantOf (state event : String) (t : Transition) : Bool :=
  t.event == event && startsWith (state.toList ++ ['_']) t.source.toList

theorem lends_eq (state event : String) (t : Transition) :
    lends state event t.key = (decide (IsBaseName state) && t.leavesVariantOf state event) := by
  rw [Bool.eq_iff_iff, lends_iff, baseName?_eq_some_iff, Bool.and_eq_true, decide_eq_true_eq,
    Transition.leavesVariantOf, Bool.and_eq_true, startsWith_iff, beq_iff_eq]
  exact and_left_comm

namespace Python.TransitionRow

theorem key_ne_of_sameTrigger {t u : Transition} (h : sameTrigger t u = false) :
    t.key ≠ u.key := by
  simpa [sameTrigger, Transition.key] using h

theorem key_ne_of_sameKey {a b : TransitionRow} (h : sameKey a b = false) : a.key ≠ b.key := by
  simpa [sameKey, key] using h

theorem map_key_withMethods (taken : List String) (ts : List Transition) :
    (withMethods taken ts).map key = ts.map Transition.key := by
  induction ts generalizing taken with
  | nil => rfl
  | cons t ts ih =>
    rw [withMethods]
    split
    · rw [List.map_cons, List.map_cons, ih]
      rfl
    · rw [List.map_cons, List.map_cons, ih]
      rfl

theorem explicit_keys_nodup (m : StateMachine) : ((explicit m).map key).Nodup := by
  rw [explicit, map_key_withMethods, List.Nodup, List.pairwise_map]
  exact (distinct_pairwise m.transitions).imp key_ne_of_sameTrigger

/-- No two rows are for the same state and event. -/
theorem keys_nodup (m : StateMachine) : ((ofMachine m).map key).Nodup := by
  obtain ⟨hlent, hnew⟩ : (distinctFrom sameKey (explicit m)
      ((explicit m).filterMap (aliasRow m))).Pairwise (fun a b => sameKey a b = false) ∧ _ :=
    distinctFrom_pairwise (explicit m) _
  rw [ofMachine, List.map_append, List.nodup_append]
  refine ⟨explicit_keys_nodup m, ?_, ?_⟩
  · rw [List.Nodup, List.pairwise_map]
    exact hlent.imp key_ne_of_sameKey
  · intro k hk l hl hkl
    obtain ⟨a, ha, rfl⟩ := List.mem_map.1 hk
    obtain ⟨b, hb, rfl⟩ := List.mem_map.1 hl
    exact key_ne_of_sameKey (hnew b hb a ha) hkl

/-- The first transition of a state and an event has a row of its own. -/
theorem exists_explicit {m : StateMachine} {t : Transition} (ht : t ∈ m.transitions) :
    ∃ row ∈ explicit m, row.key = t.key ∧
      (m.transitions.find? fun u => u.key == t.key) = some row.transition := by
  have hfound := find?_explicit m (fun k => k == t.key)
  cases hrow : (explicit m).find? fun row => row.key == t.key with
  | none =>
    rw [hrow] at hfound
    exact absurd (beq_self_eq_true t.key) (List.find?_eq_none.1 hfound.symm t ht)
  | some row =>
    rw [hrow] at hfound
    have hkey := List.find?_some hrow
    exact ⟨row, List.mem_of_find?_eq_some hrow, eq_of_beq hkey, hfound.symm⟩

/-- A state without a transition of its own has the row of the first one that leaves a variant of
it, provided that it is declared and can have variants. -/
theorem find?_of_no_transition {m : StateMachine} {state event : String}
    (h : ∀ t ∈ m.transitions, t.key ≠ (state, event)) :
    ((ofMachine m).find? fun row => row.key == (state, event)).map (·.transition) =
      if m.hasState state = true ∧ IsBaseName state then
        m.transitions.find? (Transition.leavesVariantOf state event) else none := by
  have hnone : (m.transitions.find? fun t => t.key == (state, event)) = none :=
    List.find?_eq_none.2 fun t ht => by simpa using h t ht
  rw [find?_ofMachine, hnone, Option.none_or, firstLender]
  simp only [lends_eq]
  by_cases hbase : IsBaseName state
  · simp [hbase]
  · simp [hbase]

theorem exists_row_iff {m : StateMachine} {state event : String}
    (h : ∀ t ∈ m.transitions, t.key ≠ (state, event)) :
    (∃ row ∈ ofMachine m, row.key = (state, event)) ↔
      m.hasState state = true ∧ IsBaseName state ∧
        ∃ t ∈ m.transitions, t.leavesVariantOf state event = true := by
  have hfound := congrArg Option.isSome (find?_of_no_transition h)
  rw [Option.isSome_map] at hfound
  have hrow : (∃ row ∈ ofMachine m, row.key = (state, event)) ↔
      ((ofMachine m).find? fun row => row.key == (state, event)).isSome = true := by
    rw [List.find?_isSome]
    simp
  rw [hrow, hfound, ← and_assoc]
  split
  · rename_i hlent
    rw [List.find?_isSome, and_iff_right hlent]
  · rename_i hlent
    simp [hlent]

theorem transition_of_lent {m : StateMachine} {state event : String}
    (h : ∀ t ∈ m.transitions, t.key ≠ (state, event)) {row : TransitionRow}
    (hrow : row ∈ ofMachine m) (hkey : row.key = (state, event)) :
    m.transitions.find? (Transition.leavesVariantOf state event) = some row.transition := by
  have hfound := find?_of_no_transition h
  rw [← hkey, find?_of_nodup (keys_nodup m) hrow] at hfound
  split at hfound
  · exact hfound.symm
  · cases hfound

theorem numbered_injective (base : String) : Function.Injective (numbered base) := fun _ _ h =>
  lower_numbered_injective base (congrArg lower h)

def methods (rows : List TransitionRow) : List String := rows.filterMap method

/-- A row of a transition. When its method was named, no more names were taken than there were at
first and transitions before it. -/
theorem exists_of_mem_withMethods {taken : List String} {ts : List Transition}
    {row : TransitionRow} (h : row ∈ withMethods taken ts) :
    ∃ t ∈ ts, ∃ used : List String, used.length < taken.length + ts.length ∧
      row = ⟨t.source, t, if (trimmed t.action).isEmpty then none
        else some (freeName id used (methodName t.source t.event)), none⟩ := by
  induction ts generalizing taken with
  | nil => cases h
  | cons t ts ih =>
    rw [withMethods] at h
    split at h
    · rename_i haction
      rcases List.mem_cons.1 h with rfl | h
      · exact ⟨t, List.mem_cons_self, taken, by simp, by rw [if_pos haction]⟩
      · obtain ⟨u, hu, used, hused, hrow⟩ := ih h
        exact ⟨u, List.mem_cons_of_mem t hu, used, by rw [List.length_cons]; omega, hrow⟩
    · rename_i haction
      rcases List.mem_cons.1 h with rfl | h
      · exact ⟨t, List.mem_cons_self, taken, by simp, by rw [if_neg haction]⟩
      · obtain ⟨u, hu, used, hused, hrow⟩ := ih h
        rw [List.length_cons] at hused
        exact ⟨u, List.mem_cons_of_mem t hu, used, by rw [List.length_cons]; omega, hrow⟩

theorem method_isSome {taken : List String} {ts : List Transition} {row : TransitionRow}
    (h : row ∈ withMethods taken ts) :
    row.method.isSome = !(trimmed row.transition.action).isEmpty := by
  obtain ⟨t, -, used, -, rfl⟩ := exists_of_mem_withMethods h
  cases (trimmed t.action).isEmpty <;> rfl

theorem not_mem_of_mem_methods {taken : List String} {ts : List Transition} {name : String}
    (h : name ∈ methods (withMethods taken ts)) : name ∉ taken := by
  induction ts generalizing taken with
  | nil => cases h
  | cons t ts ih =>
    rw [withMethods] at h
    split at h
    · exact ih h
    · rcases List.mem_cons.1 h with rfl | h
      · have hfree : id (freeName id taken (methodName t.source t.event)) ∉ taken :=
          freeName_not_mem (numbered_injective _) taken
        exact hfree
      · exact fun hmem => ih h (List.mem_cons_of_mem _ hmem)

theorem methods_withMethods_nodup (taken : List String) (ts : List Transition) :
    (methods (withMethods taken ts)).Nodup := by
  induction ts generalizing taken with
  | nil => exact List.nodup_nil
  | cons t ts ih =>
    rw [withMethods]
    split
    · exact ih taken
    · exact List.nodup_cons.2 ⟨fun h => not_mem_of_mem_methods h List.mem_cons_self, ih _⟩

theorem methods_nodup (m : StateMachine) : (methods (explicit m)).Nodup :=
  methods_withMethods_nodup [] _

theorem aliasOf_eq_none {taken : List String} {ts : List Transition} {row : TransitionRow}
    (h : row ∈ withMethods taken ts) : row.aliasOf = none := by
  obtain ⟨t, -, used, -, rfl⟩ := exists_of_mem_withMethods h
  rfl

theorem state_of_mem_explicit {m : StateMachine} {row : TransitionRow} (h : row ∈ explicit m) :
    row.state = row.transition.source := by
  obtain ⟨t, -, used, -, rfl⟩ := exists_of_mem_withMethods h
  rfl

/-- A row that is not explicit has the transition and the method of an explicit one, for the base of
its state. -/
theorem exists_lender {m : StateMachine} {row : TransitionRow}
    (h : row ∈ distinctFrom sameKey (explicit m) ((explicit m).filterMap (aliasRow m))) :
    ∃ origin ∈ explicit m, baseName? origin.state = some row.state ∧
      row = ⟨row.state, origin.transition, origin.method, some origin.state⟩ := by
  obtain ⟨origin, horigin, halias⟩ := List.mem_filterMap.1 (mem_of_mem_distinctFrom h)
  rw [aliasRow_eq] at halias
  obtain ⟨base, hbase, rfl⟩ := Option.map_eq_some_iff.1 halias
  exact ⟨origin, horigin, (Option.filter_eq_some_iff.1 hbase).1, rfl⟩

theorem filter_explicit (m : StateMachine) :
    ((ofMachine m).filter fun row => row.aliasOf.isNone) = explicit m := by
  rw [ofMachine, List.filter_append, List.filter_eq_self.2, List.filter_eq_nil_iff.2,
    List.append_nil]
  · intro row hrow
    obtain ⟨origin, -, -, hlent⟩ := exists_lender hrow
    rw [hlent]
    exact Bool.false_ne_true
  · intro row hrow
    rw [aliasOf_eq_none hrow]
    rfl

theorem mem_explicit_iff {m : StateMachine} {row : TransitionRow} :
    row ∈ explicit m ↔ row ∈ ofMachine m ∧ row.aliasOf = none := by
  rw [← filter_explicit, List.mem_filter, Option.isNone_iff_eq_none]

theorem eq_of_method {m : StateMachine} {a b : TransitionRow} {name : String}
    (ha : a ∈ explicit m) (hb : b ∈ explicit m) (haname : a.method = some name)
    (hbname : b.method = some name) : a = b := by
  by_contra hne
  have hpairs := List.pairwise_filterMap.1 (methods_nodup m)
  have hsymm : Std.Symm fun x y : TransitionRow =>
      ∀ c, x.method = some c → ∀ d, y.method = some d → c ≠ d :=
    ⟨fun _ _ hxy c hc d hd => (hxy d hd c hc).symm⟩
  exact hpairs.forall ha hb hne name haname name hbname rfl

/-- Lent rows name no methods of their own. -/
theorem method_mem {m : StateMachine} {row : TransitionRow} {name : String}
    (h : row ∈ ofMachine m) (hname : row.method = some name) : name ∈ methods (explicit m) := by
  rcases List.mem_append.1 h with h | h
  · exact List.mem_filterMap.2 ⟨row, h, hname⟩
  · obtain ⟨origin, horigin, -, hlent⟩ := exists_lender h
    rw [hlent] at hname
    exact List.mem_filterMap.2 ⟨origin, horigin, hname⟩

end Python.TransitionRow

end ExecutableUml
