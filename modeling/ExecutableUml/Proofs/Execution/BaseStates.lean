import ExecutableUml.Execution.Table
import ExecutableUml.Proofs.Text.Sorted
import ExecutableUml.Proofs.Text.Split

/-! What a transition table answers. A row counts for its state and its event if no row before it is
for the same, and a declared state without a row takes the reaction of one of its variants, the
states that have its name in front of their first underscore. -/

namespace ExecutableUml

namespace Execution

open Text

/-- The state that a state is a variant of: the name in front of its first underscore. -/
def baseName? (state : String) : Option String :=
  match cutAtChar '_' state.toList with
  | none => none
  | some (base, _) => if base.isEmpty then none else some (String.ofList base)

end Execution

open Text Execution

/-- A state that can have variants: its name is not empty and has no underscore. -/
def IsBaseName (state : String) : Prop := state ≠ "" ∧ '_' ∉ state.toList

instance : DecidablePred IsBaseName := fun state =>
  inferInstanceAs (Decidable (state ≠ "" ∧ '_' ∉ state.toList))

theorem baseName?_eq_some_iff {state variant : String} :
    baseName? variant = some state ↔
      IsBaseName state ∧ state.toList ++ ['_'] <+: variant.toList := by
  unfold baseName?
  constructor
  · intro h
    cases hcut : cutAtChar '_' variant.toList with
    | none =>
      rw [hcut] at h
      cases h
    | some cut =>
      obtain ⟨before, after⟩ := cut
      simp only [hcut] at h
      split at h
      · cases h
      · rename_i hne
        cases h
        rw [IsBaseName, String.toList_ofList, cutAtChar_eq_some hcut]
        refine ⟨⟨?_, not_mem_of_cutAtChar hcut⟩, after, by simp⟩
        intro hempty
        simp_all
  · rintro ⟨⟨hne, hunderscore⟩, after, hvariant⟩
    rw [← hvariant, List.append_assoc, List.singleton_append, cutAtChar_append hunderscore]
    simp [hne]

namespace Execution

theorem baseState?_eq (declared : List String) (state : String) :
    baseState? declared state = (baseName? state).filter declared.contains := by
  unfold baseState? baseName?
  cases cutAtChar '_' state.toList with
  | none => rfl
  | some cut =>
    simp only
    split
    · rfl
    · rw [Option.filter_some]

/-- Something for the state and the event of its key can be lent to the base for that event. -/
def lends (base event : String) (key : String × String) : Bool :=
  key.2 == event && baseName? key.1 == some base

theorem lends_iff {base event : String} {key : String × String} :
    lends base event key = true ↔ key.2 = event ∧ baseName? key.1 = some base := by
  simp [lends]

section Lenders

variable {α : Type} (key : α → String × String)

def firstLender (base event : String) (l : List α) : Option α :=
  l.find? fun a => lends base event (key a)

/-- The first of those in the list that can be lent and are for the variant that sorts first. -/
def leastLender (base event : String) (l : List α) : Option α :=
  l.find? fun a => lends base event (key a) &&
    l.all fun b => decide (lends base event (key b) = true → ¬ (key b).1 < (key a).1)

theorem leastLender_map {β : Type} (f : β → α) (base event : String) (l : List β) :
    leastLender key base event (l.map f) = (leastLender (key ∘ f) base event l).map f := by
  simp only [leastLender, List.find?_map, List.all_map]
  rfl

variable {key}

theorem lends_of_leastLender {base event : String} {l : List α} {a : α}
    (h : leastLender key base event l = some a) : lends base event (key a) = true := by
  rw [leastLender] at h
  have hfound := List.find?_some h
  exact (Bool.and_eq_true_iff.1 hfound).1

/-- The first entry for a state and an event is the least lender, if no variant with an entry for
the event sorts before its state. -/
theorem leastLender_eq_of_first {base event state : String} {l : List α} {a : α}
    (ha : l.find? (fun b => key b == (state, event)) = some a) (hbase : baseName? state = some base)
    (hleast : ∀ b ∈ l, lends base event (key b) = true → ¬ (key b).1 < state) :
    leastLender key base event l = some a := by
  obtain ⟨hkey, before, after, hl, hbefore⟩ := List.find?_eq_some_iff_append.1 ha
  replace hkey : key a = (state, event) := by simpa using hkey
  have hlends : lends base event (key a) = true := by simp [lends_iff, hkey, hbase]
  refine List.find?_eq_some_iff_append.2 ⟨?_, before, after, hl, fun b hb => ?_⟩
  · rw [hlends, Bool.true_and, List.all_eq_true]
    intro b hb
    rw [hkey]
    exact decide_eq_true (hleast b hb)
  · -- An earlier one that passed the test would be for the same state and event.
    rw [Bool.not_eq_true', Bool.eq_false_iff]
    intro hpasses
    obtain ⟨hlends', hall⟩ := Bool.and_eq_true_iff.1 hpasses
    have hab : ¬ (key a).1 < (key b).1 :=
      of_decide_eq_true (List.all_eq_true.1 hall a (by simp [hl])) hlends
    have hba : ¬ (key b).1 < (key a).1 := by
      rw [hkey]
      exact hleast b (by simp [hl, hb]) hlends'
    have hsame : key b = (state, event) := by
      refine Prod.ext ?_ (lends_iff.1 hlends').1
      rw [le_antisymm (not_lt.1 hab) (not_lt.1 hba), hkey]
    simpa [hsame] using hbefore b hb

end Lenders

namespace TransitionTable

variable {L : Language}

def Row.key (row : Row L) : String × String := (row.state, row.event)

theorem get?_eq (t : TransitionTable L) (state event : String) :
    t.get? state event = (t.rows.find? fun row => row.key == (state, event)).map (·.reaction) := by
  rfl

theorem mem_states_of_get? {t : TransitionTable L} {state event : String} {r : Reaction L}
    (h : t.get? state event = some r) : state ∈ t.states := by
  rw [get?_eq] at h
  obtain ⟨row, hrow, -⟩ := Option.map_eq_some_iff.1 h
  have hkey := List.find?_some hrow
  simp only [Row.key, beq_iff_eq, Prod.mk.injEq] at hkey
  exact mem_sortedSet.2 (List.mem_map.2 ⟨row, List.mem_of_find?_eq_some hrow, hkey.1⟩)

theorem get?_on (t : TransitionTable L) (row : Row L) (state event : String) :
    (t.on row).get? state event = (t.get? state event).or
      (if row.key = (state, event) then some row.reaction else none) := by
  unfold on
  split
  · rename_i hsome
    split
    · rename_i hkey
      cases hkey
      exact (Option.or_of_isSome hsome).symm
    · rw [Option.or_none]
  · rename_i hnone
    rw [get?_eq, get?_eq, List.find?_append, Option.map_or]
    congr 1
    split
    · rename_i hkey
      simp [hkey]
    · rename_i hkey
      simp [hkey]

/-- Rows are added in order, so the first one for a key counts unless the table has one already. -/
theorem get?_foldl_on (t : TransitionTable L) (rows : List (Row L)) (state event : String) :
    (rows.foldl on t).get? state event = (t.get? state event).or
      ((rows.find? fun row => row.key == (state, event)).map (·.reaction)) := by
  induction rows generalizing t with
  | nil => simp
  | cons row rows ih =>
    rw [List.foldl_cons, ih, get?_on, Option.or_assoc]
    congr 1
    by_cases hkey : row.key = (state, event)
    · simp [hkey]
    · simp [hkey]

theorem get?_ofRows (rows : List (Row L)) (state event : String) :
    (ofRows rows).get? state event =
      (rows.find? fun row => row.key == (state, event)).map (·.reaction) := by
  rw [ofRows, get?_foldl_on]
  rfl

theorem find?_lentRows (t : TransitionTable L) (declared : List String) (variant base event : String) :
    ((t.lentRows declared variant).find? fun row => row.key == (base, event)).map (·.reaction) =
      if baseState? declared variant = some base then t.get? variant event else none := by
  unfold lentRows
  split
  · rename_i hnone
    simp [hnone]
  · rename_i name hname
    rw [hname, List.find?_map, Option.map_map, List.find?_filter, get?]
    split
    · rename_i hbase
      cases hbase
      refine congrArg (Option.map _) (congrArg (List.find? · t.rows) ?_)
      funext row
      rw [Bool.eq_iff_iff]
      simp [Row.key]
    · rename_i hbase
      rw [Option.some.injEq] at hbase
      simp [Row.key, hbase]

theorem get?_withBaseStates (t : TransitionTable L) (declared : List String)
    (state event : String) :
    (t.withBaseStates declared).get? state event = (t.get? state event).or
      (t.states.findSome? fun variant =>
        if baseState? declared variant = some state then t.get? variant event else none) := by
  rw [withBaseStates, get?_foldl_on, List.find?_flatMap, List.map_findSome?]
  simp only [Function.comp_def, find?_lentRows]

theorem get?_of_lends {rows : List (Row L)} {row : Row L} (hrow : row ∈ rows) {base event : String}
    (h : lends base event row.key = true) : ∃ r, (ofRows rows).get? row.state event = some r := by
  have hfound : (rows.find? fun other => other.key == (row.state, event)).isSome = true :=
    List.find?_isSome.2 ⟨row, hrow, by rw [← (lends_iff.1 h).1]; exact beq_self_eq_true row.key⟩
  obtain ⟨first, hfirst⟩ := Option.isSome_iff_exists.1 hfound
  exact ⟨first.reaction, by rw [get?_ofRows, hfirst, Option.map_some]⟩

/-- A declared state without a row of its own reacts like the least of its variants with a row for
the event. -/
theorem get?_ofRows_withBaseStates (rows : List (Row L)) (declared : List String)
    (state event : String) :
    ((ofRows rows).withBaseStates declared).get? state event =
      ((rows.find? fun row => row.key == (state, event)).map (·.reaction)).or
        (if state ∈ declared then (leastLender Row.key state event rows).map (·.reaction)
          else none) := by
  rw [get?_withBaseStates, get?_ofRows]
  congr 1
  -- A row that can be lent makes the search succeed at the state of the row.
  have hsearch : ∀ row ∈ rows, state ∈ declared → lends state event row.key = true →
      row.state ∈ (ofRows rows).states ∧
        (if baseState? declared row.state = some state then (ofRows rows).get? row.state event
          else none) ≠ none := by
    intro row hrow hdeclared hlends
    obtain ⟨r, hr⟩ := get?_of_lends hrow hlends
    have hbase : baseState? declared row.state = some state := by
      rw [baseState?_eq, Option.filter_eq_some_iff, List.contains_iff_mem]
      exact ⟨(lends_iff.1 hlends).2, hdeclared⟩
    rw [if_pos hbase, hr]
    exact ⟨mem_states_of_get? hr, Option.some_ne_none r⟩
  cases hfound : (ofRows rows).states.findSome? fun variant =>
      if baseState? declared variant = some state then (ofRows rows).get? variant event
      else none with
  | none =>
    split
    · rename_i hdeclared
      cases hlender : leastLender Row.key state event rows with
      | none => rfl
      | some row =>
        obtain ⟨hmem, hne⟩ := hsearch row (List.mem_of_find?_eq_some hlender) hdeclared
          (lends_of_leastLender hlender)
        exact absurd (List.findSome?_eq_none_iff.1 hfound row.state hmem) hne
    · rfl
  | some r =>
    obtain ⟨variant, -, hlent, hleast⟩ :=
      (findSome?_eq_some_iff_least (sortedSet_increasing _)).1 hfound
    split at hlent
    · rename_i hbase
      rw [baseState?_eq, Option.filter_eq_some_iff, List.contains_iff_mem] at hbase
      rw [get?_ofRows] at hlent
      obtain ⟨row, hrow, rfl⟩ := Option.map_eq_some_iff.1 hlent
      have hlender : leastLender Row.key state event rows = some row := by
        refine leastLender_eq_of_first hrow hbase.1 fun other hother hlends hlt => ?_
        obtain ⟨hmem, hne⟩ := hsearch other hother hbase.2 hlends
        exact hne (hleast other.state hmem hlt)
      rw [if_pos hbase.2, hlender, Option.map_some]
    · cases hlent

end TransitionTable

end Execution

end ExecutableUml
