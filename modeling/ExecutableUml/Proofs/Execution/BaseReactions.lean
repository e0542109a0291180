import ExecutableUml.Execution.Script
import ExecutableUml.Proofs.Distinct
import ExecutableUml.Proofs.Execution.BaseStates
import ExecutableUml.Proofs.Text.ByteOrder
import Mathlib.Data.List.Nodup

/-! What lending rows to base states makes of a table, in closed form: a state answers by the first
row given for it, and a declared base state without one by its bytewise least variant that has one.
So the order in which the rows are held does not matter, and lending once more changes nothing. -/

namespace ExecutableUml.Execution

open Text

/-- The name of the variant is that of the base, an underscore and more. -/
def IsVariant (base variant : String) : Prop := ∃ rest, variant = base ++ "_" ++ rest

theorem isVariant_iff {base variant : String} :
    IsVariant base variant ↔ base.toList ++ ['_'] <+: variant.toList := by
  constructor
  · rintro ⟨rest, rfl⟩
    exact ⟨rest.toList, by simp⟩
  · rintro ⟨rest, hrest⟩
    refine ⟨String.ofList rest, String.toList_injective ?_⟩
    simp [← hrest]

theorem baseState?_eq_some_iff {declared : List String} {base variant : String} :
    baseState? declared variant = some base ↔
      IsBaseName base ∧ base ∈ declared ∧ IsVariant base variant := by
  rw [baseState?_eq, Option.filter_eq_some_iff, List.contains_iff_mem, baseName?_eq_some_iff,
    isVariant_iff, and_right_comm, and_assoc]

/-- A variant has an underscore, so it has no variants itself. -/
theorem not_isBaseName_of_isVariant {base variant : String} (h : IsVariant base variant) :
    ¬ IsBaseName variant := by
  obtain ⟨rest, rfl⟩ := h
  rintro ⟨-, hunderscore⟩
  exact hunderscore (by simp)

namespace TransitionTable

variable {L : Language}

def firstGiven (rows : List (Row L)) (state event : String) : Option (Reaction L) :=
  (rows.find? fun row => row.key == (state, event)).map (·.reaction)

/-- What a state takes over where the states react by themselves as `own` says: it is declared and
can have variants, and the reaction is that of the bytewise least variant that reacts to the
event. -/
def TakesOver (own : String → String → Option (Reaction L)) (declared : List String)
    (state event : String) (r : Reaction L) : Prop :=
  IsBaseName state ∧ state ∈ declared ∧ ∃ variant, IsVariant state variant ∧
    own variant event = some r ∧
    ∀ other, IsVariant state other → own other event ≠ none → bytes variant ≤ bytes other

variable {t u : TransitionTable L} {declared : List String}

/-- A search along the sorted states stops at the least variant that reacts. -/
theorem findSome?_states_iff {state event : String} {r : Reaction L} :
    (t.states.findSome? fun variant =>
        if baseState? declared variant = some state then t.get? variant event else none) = some r ↔
      TakesOver t.get? declared state event r := by
  constructor
  · intro h
    obtain ⟨variant, -, hvariant, hleast⟩ :=
      (findSome?_eq_some_iff_least (sortedSet_increasing _)).1 h
    split at hvariant
    · rename_i hbase
      obtain ⟨hname, hdeclared, hstate⟩ := baseState?_eq_some_iff.1 hbase
      refine ⟨hname, hdeclared, variant, hstate, hvariant, fun other hother hreacts => ?_⟩
      -- A lesser variant that reacts would have been found before.
      obtain ⟨r', hr'⟩ := Option.ne_none_iff_exists'.1 hreacts
      rw [bytes_le_iff]
      refine not_lt.1 fun hless => hreacts ?_
      have hnone := hleast other (mem_states_of_get? hr') hless
      rwa [if_pos (baseState?_eq_some_iff.2 ⟨hname, hdeclared, hother⟩)] at hnone
    · cases hvariant
  · rintro ⟨hname, hdeclared, variant, hvariant, hr, hleast⟩
    refine (findSome?_eq_some_iff_least (sortedSet_increasing _)).2
      ⟨variant, mem_states_of_get? hr, ?_, fun other _ hless => ?_⟩
    · rwa [if_pos (baseState?_eq_some_iff.2 ⟨hname, hdeclared, hvariant⟩)]
    · split
      · rename_i hbase
        by_contra hreacts
        have hle := hleast other (baseState?_eq_some_iff.1 hbase).2.2 hreacts
        exact absurd hless (not_lt.2 (bytes_le_iff.1 hle))
      · rfl

/-- What a table with base states answers, by what the table answers without them. -/
theorem get?_withBaseStates_iff {state event : String} {r : Reaction L} :
    (t.withBaseStates declared).get? state event = some r ↔
      t.get? state event = some r ∨
        t.get? state event = none ∧ TakesOver t.get? declared state event r := by
  rw [get?_withBaseStates, Option.or_eq_some_iff, findSome?_states_iff]

def KeysDistinct (t : TransitionTable L) : Prop := (t.rows.map Row.key).Nodup

theorem get?_eq_none_iff {state event : String} :
    t.get? state event = none ↔ (state, event) ∉ t.rows.map Row.key := by
  rw [get?_eq, Option.map_eq_none_iff, List.find?_eq_none, List.mem_map]
  simp only [beq_iff_eq, not_exists, not_and]

theorem KeysDistinct.on (h : t.KeysDistinct) (row : Row L) : (t.on row).KeysDistinct := by
  unfold TransitionTable.on
  split
  · exact h
  · rename_i hnone
    rw [Option.not_isSome_iff_eq_none, get?_eq_none_iff] at hnone
    rw [KeysDistinct, List.map_append, List.map_singleton]
    exact List.nodup_append_comm.2 (List.nodup_cons.2 ⟨hnone, h⟩)

theorem KeysDistinct.foldl_on (h : t.KeysDistinct) (rows : List (Row L)) :
    (rows.foldl TransitionTable.on t).KeysDistinct :=
  List.foldlRecOn rows _ h fun _ ht row _ => ht.on row

theorem keysDistinct_ofRows (rows : List (Row L)) : (ofRows rows).KeysDistinct := by
  have hnew : KeysDistinct ({} : TransitionTable L) := List.nodup_nil
  exact hnew.foldl_on rows

theorem KeysDistinct.withBaseStates (h : t.KeysDistinct) (declared : List String) :
    (t.withBaseStates declared).KeysDistinct :=
  h.foldl_on _

/-- A table without two rows for one key answers by its rows. -/
theorem KeysDistinct.get?_eq_some_iff (h : t.KeysDistinct) {state event : String}
    {r : Reaction L} :
    t.get? state event = some r ↔ ⟨state, event, r⟩ ∈ t.rows := by
  rw [get?_eq, Option.map_eq_some_iff]
  constructor
  · rintro ⟨row, hrow, rfl⟩
    have hkey := List.find?_some hrow
    obtain ⟨rfl, rfl⟩ := Prod.mk.inj (eq_of_beq hkey)
    exact List.mem_of_find?_eq_some hrow
  · intro hrow
    exact ⟨_, find?_of_nodup h hrow, rfl⟩

/-- Tables that hold the same rows in another order answer alike. -/
theorem KeysDistinct.get?_eq_of_perm (ht : t.KeysDistinct)
    (h : u.rows.Perm t.rows) : u.get? = t.get? := by
  have hu : u.KeysDistinct := (h.map Row.key).nodup_iff.2 ht
  funext state event
  apply Option.ext
  intro r
  rw [hu.get?_eq_some_iff, ht.get?_eq_some_iff, h.mem_iff]

theorem KeysDistinct.perm_of_get?_eq (ht : t.KeysDistinct) (hu : u.KeysDistinct)
    (h : u.get? = t.get?) : u.rows.Perm t.rows := by
  have hnodup : u.rows.Nodup ∧ t.rows.Nodup := ⟨.of_map _ hu, .of_map _ ht⟩
  refine (List.perm_ext_iff_of_nodup hnodup.1 hnodup.2).2 fun row => ?_
  rw [← hu.get?_eq_some_iff, ← ht.get?_eq_some_iff, h]

/-- Where rows are lent, the order in which the table holds its own does not matter. -/
theorem KeysDistinct.get?_withBaseStates_of_perm (ht : t.KeysDistinct)
    (h : u.rows.Perm t.rows) (declared : List String) :
    (u.withBaseStates declared).get? = (t.withBaseStates declared).get? := by
  funext state event
  apply Option.ext
  intro r
  rw [get?_withBaseStates_iff, get?_withBaseStates_iff, ht.get?_eq_of_perm h]

theorem foldl_on_eq_self {rows : List (Row L)}
    (h : ∀ row ∈ rows, t.get? row.state row.event ≠ none) : rows.foldl on t = t := by
  induction rows with
  | nil => rfl
  | cons row rows ih =>
    have hrow : (t.get? row.state row.event).isSome = true :=
      Option.isSome_iff_ne_none.2 (h row List.mem_cons_self)
    rw [List.foldl_cons, on, if_pos hrow]
    exact ih fun other hother => h other (List.mem_cons_of_mem row hother)

theorem of_mem_lentRows {variant : String}
    {row : Row L} (h : row ∈ t.lentRows declared variant) :
    baseState? declared variant = some row.state ∧ t.get? variant row.event ≠ none := by
  unfold lentRows at h
  split at h
  · cases h
  · rename_i base hbase
    obtain ⟨own, hown, rfl⟩ := List.mem_map.1 h
    obtain ⟨hrow, hstate⟩ := List.mem_filter.1 hown
    refine ⟨hbase, fun hnone => get?_eq_none_iff.1 hnone (List.mem_map.2 ⟨own, hrow, ?_⟩)⟩
    rw [Row.key, eq_of_beq hstate]

theorem get?_base_ne_none
    {base variant event : String} {r : Reaction L} (hbase : baseState? declared variant = some base)
    (hr : t.get? variant event = some r) : (t.withBaseStates declared).get? base event ≠ none := by
  intro hnone
  rw [get?_withBaseStates, Option.or_eq_none_iff, List.findSome?_eq_none_iff] at hnone
  have hvariant := hnone.2 variant (mem_states_of_get? hr)
  rw [if_pos hbase, hr] at hvariant
  cases hvariant

/-- A state that lends a row has it from the start, since what is lent goes to states without an
underscore. -/
theorem get?_of_get?_variant
    {base variant event : String} {r : Reaction L} (hvariant : IsVariant base variant)
    (h : (t.withBaseStates declared).get? variant event = some r) :
    t.get? variant event = some r := by
  rcases get?_withBaseStates_iff.1 h with hown | ⟨-, hname, -⟩
  · exact hown
  · exact absurd hname (not_isBaseName_of_isVariant hvariant)

theorem withBaseStates_withBaseStates (t : TransitionTable L) (declared : List String) :
    (t.withBaseStates declared).withBaseStates declared = t.withBaseStates declared := by
  refine foldl_on_eq_self fun row hrow => ?_
  obtain ⟨variant, -, hlent⟩ := List.mem_flatMap.1 hrow
  obtain ⟨hbase, hown⟩ := of_mem_lentRows hlent
  -- The lender did not borrow, so it lent this row the first time already.
  obtain ⟨r, hr⟩ := Option.ne_none_iff_exists'.1 hown
  exact get?_base_ne_none hbase (get?_of_get?_variant (baseState?_eq_some_iff.1 hbase).2.2 hr)

/-- The tables that are made of given rows and lend to their base states: what they answer, that the
order of the rows in the table is of no account, and that lending twice is lending once. -/
theorem withBaseStates_determined (rows : List (Row L)) (declared : List String) :
    (∀ state event r, ((ofRows rows).withBaseStates declared).get? state event = some r ↔
      firstGiven rows state event = some r ∨
        firstGiven rows state event = none ∧
          TakesOver (firstGiven rows) declared state event r) ∧
    (∀ t : TransitionTable L, t.rows.Perm (ofRows rows).rows →
      (t.withBaseStates declared).rows.Perm ((ofRows rows).withBaseStates declared).rows ∧
        (t.withBaseStates declared).get? = ((ofRows rows).withBaseStates declared).get?) ∧
    ((ofRows rows).withBaseStates declared).withBaseStates declared =
      (ofRows rows).withBaseStates declared := by
  have hfirst : (ofRows rows).get? = firstGiven rows := by
    funext state event
    exact get?_ofRows rows state event
  have hdistinct := keysDistinct_ofRows rows
  refine ⟨fun state event r => ?_, fun t ht => ?_, withBaseStates_withBaseStates _ declared⟩
  · rw [get?_withBaseStates_iff, hfirst]
  · have hsame := hdistinct.get?_withBaseStates_of_perm ht declared
    have ht' : t.KeysDistinct := (ht.map Row.key).nodup_iff.2 hdistinct
    exact ⟨(hdistinct.withBaseStates declared).perm_of_get?_eq (ht'.withBaseStates declared) hsame,
      hsame⟩

/-- A gate where a payment is cancelled by coin or by card; a name that starts with an underscore is
no variant. -/
def tollRows : List (Row scripts) := [
  ⟨"Paying_Coin", "cancel", { next := "Idle" }⟩,
  ⟨"_Paying", "cancel", { next := "Closed" }⟩,
  ⟨"Paying_Card_Old", "cancel", { next := "Idle" }⟩,
  ⟨"Paying_Card", "cancel", { next := "Blocked" }⟩,
  ⟨"Paying_Card", "cancel", { next := "Idle" }⟩,
  ⟨"Paying", "coin", { next := "Open" }⟩]

theorem tollRows_determined : ∃ r : Reaction scripts, r.next = "Blocked" ∧
    TakesOver (firstGiven tollRows) ["Paying", "Idle"] "Paying" "cancel" r ∧
    (withBaseStates ⟨(ofRows tollRows).rows.reverse⟩ ["Paying", "Idle"]).get? "Paying" "cancel" =
      some r := by
  obtain ⟨hanswers, horder, -⟩ := withBaseStates_determined tollRows ["Paying", "Idle"]
  have hnext : (((ofRows tollRows).withBaseStates ["Paying", "Idle"]).get? "Paying" "cancel").map
      Reaction.next = some "Blocked" := by decide +kernel
  have hown : (firstGiven tollRows "Paying" "cancel").map Reaction.next = none := by decide +kernel
  obtain ⟨r, hr, hnext⟩ := Option.map_eq_some_iff.1 hnext
  refine ⟨r, hnext, ?_, ?_⟩
  · rcases (hanswers "Paying" "cancel" r).1 hr with hgiven | ⟨-, htaken⟩
    · rw [hgiven] at hown
      cases hown
    · exact htaken
  · rw [(horder ⟨(ofRows tollRows).rows.reverse⟩ (List.reverse_perm _)).2]
    exact hr

end TransitionTable

end ExecutableUml.Execution
