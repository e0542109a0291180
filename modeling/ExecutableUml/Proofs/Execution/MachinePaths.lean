import ExecutableUml.Proofs.Execution.Identities

/-! The machines of instances along a run. Whatever is executed, and however deep actions dispatch
to the instance whose transition set them off, an instance goes through three kinds of moves: an
attribute is written, a row of the table is taken, or the state is forced. Each passage is recorded
before its action runs, so the history is a path of the table even where the outcome of an outer
event is told only after the passages of the inner ones. -/

namespace ExecutableUml

namespace Execution

open Relation

variable {L : Language}

/-- The passages lead from one state to the next, and all together from the first to the last. -/
def IsPath : String → List Passage → String → Prop
  | start, [], stop => start = stop
  | start, p :: rest, stop => p.source = start ∧ IsPath p.target rest stop

theorem IsPath.concat {start stop : String} {passages : List Passage}
    (h : IsPath start passages stop) (event target : String) :
    IsPath start (passages ++ [⟨stop, event, target⟩]) target := by
  induction passages generalizing start with
  | nil => exact ⟨Eq.symm h, rfl⟩
  | cons p rest ih => exact ⟨h.1, ih h.2⟩

namespace Machine

def KeepsToTable (m : Machine L) : Prop :=
  ∀ p ∈ m.history, (m.table.get? p.source p.event).map Reaction.next = some p.target

/-- The table is the same, and passages by its rows were added. -/
structure GrownFrom (m m' : Machine L) : Prop where
  table : m'.table = m.table
  history : m.history <+: m'.history
  keeps : m.KeepsToTable → m'.KeepsToTable

theorem GrownFrom.refl (m : Machine L) : m.GrownFrom m :=
  ⟨rfl, List.prefix_refl _, id⟩

theorem GrownFrom.trans {m m' m'' : Machine L} (h : m.GrownFrom m') (h' : m'.GrownFrom m'') :
    m.GrownFrom m'' :=
  ⟨h'.table.trans h.table, h.history.trans h'.history, fun hm => h'.keeps (h.keeps hm)⟩

theorem grownFrom_advance {m : Machine L} {event : String} {reaction : Reaction L}
    (hr : m.table.get? m.current event = some reaction) :
    m.GrownFrom (m.advance event reaction.next) := by
  refine ⟨rfl, List.prefix_append _ _, fun hm p hp => ?_⟩
  rcases List.mem_append.1 hp with hp | hp
  · exact hm p hp
  · obtain rfl := List.mem_singleton.1 hp
    exact congrArg (Option.map Reaction.next) hr

end Machine

namespace Instance

/-- What can become of an instance at once. Writing the state attribute is a move only if `direct`
holds, and forcing the state only if `forced` holds. -/
inductive Move (direct forced : Prop) (i : Instance L) : Instance L → Prop where
  | set (name : String) (value : Json) (h : name = stateAttribute → direct) :
      Move direct forced i (i.setAttribute name value)
  | pass {m : Machine L} {event : String} {reaction : Reaction L} (hm : i.machine = some m)
      (hr : m.table.get? m.current event = some reaction) :
      Move direct forced i (i.withMachine (m.advance event reaction.next))
  | force (state : String) (h : forced) : Move direct forced i (i.force state)

abbrev Moves (direct forced : Prop) : Instance L → Instance L → Prop :=
  ReflTransGen (Move direct forced)

/-- The state attribute tells the state of the machine. -/
def ShowsState (i : Instance L) : Prop :=
  ∀ m, i.machine = some m → i.attribute? stateAttribute = some (.string m.current)

def OnPathFrom (start : String) (i : Instance L) : Prop :=
  ∀ m, i.machine = some m → IsPath start m.history m.current

theorem attribute?_setAttribute (i : Instance L) (name k : String) (value : Json) :
    (i.setAttribute name value).attribute? k = if k = name then some value else i.attribute? k :=
  Json.lookup_insertField name k value i.attributes

theorem showsState_withMachine (i : Instance L) (m : Machine L) : (i.withMachine m).ShowsState := by
  intro m' hm'
  obtain rfl := Option.some.inj hm'
  exact (i.attribute?_setAttribute _ _ _).trans (if_pos rfl)

variable {direct forced : Prop} {i i' : Instance L}

theorem Move.grown (h : Move direct forced i i') {m : Machine L} (hm : i.machine = some m) :
    ∃ m', i'.machine = some m' ∧ m.GrownFrom m' := by
  cases h with
  | set name value _ => exact ⟨m, hm, .refl m⟩
  | @pass m₀ _ _ hm₀ hr =>
    obtain rfl : m = m₀ := Option.some.inj (hm.symm.trans hm₀)
    exact ⟨_, rfl, Machine.grownFrom_advance hr⟩
  | force state _ =>
    rw [Instance.force, hm]
    exact ⟨_, rfl, rfl, List.prefix_refl _, fun hm => hm⟩

theorem Moves.grown (h : Moves direct forced i i') {m : Machine L} (hm : i.machine = some m) :
    ∃ m', i'.machine = some m' ∧ m.GrownFrom m' := by
  induction h with
  | refl => exact ⟨m, hm, .refl m⟩
  | tail _ hmove ih =>
    obtain ⟨m₁, hm₁, hgrown⟩ := ih
    obtain ⟨m₂, hm₂, hgrown'⟩ := hmove.grown hm₁
    exact ⟨m₂, hm₂, hgrown.trans hgrown'⟩

theorem Move.showsState (h : Move False forced i i') (hi : i.ShowsState) : i'.ShowsState := by
  cases h with
  | set name value hname =>
    intro m hm
    have hother : stateAttribute ≠ name := fun hsame => hname hsame.symm
    rw [attribute?_setAttribute, if_neg hother]
    exact hi m hm
  | pass _ _ => exact showsState_withMachine _ _
  | force state _ =>
    rw [Instance.force]
    split
    · exact hi
    · exact showsState_withMachine _ _

theorem Move.onPathFrom {start : String} (h : Move direct False i i') (hi : i.OnPathFrom start) :
    i'.OnPathFrom start := by
  cases h with
  | set name value _ => exact hi
  | pass hm _ =>
    intro m' hm'
    obtain rfl := Option.some.inj hm'
    exact (hi _ hm).concat _ _
  | force state h => exact h.elim

theorem Moves.showsState (h : Moves False forced i i') (hi : i.ShowsState) : i'.ShowsState := by
  induction h with
  | refl => exact hi
  | tail _ hmove ih => exact hmove.showsState ih

theorem Moves.onPathFrom {start : String} (h : Moves direct False i i')
    (hi : i.OnPathFrom start) : i'.OnPathFrom start := by
  induction h with
  | refl => exact hi
  | tail _ hmove ih => exact hmove.onPathFrom ih

/-- A row of the table is taken whose guard holds, or the instance stays as it is. -/
theorem react_cases (meaning : Meaning L) (i : Instance L) (m : Machine L) (event : String)
    (payload : Payload) :
    (∃ reaction, m.table.get? m.current event = some reaction ∧
      (reaction.guard.all fun guard => meaning.guard guard i payload) = true ∧
      i.react meaning m event payload = (.transitioned m.current reaction.next,
        i.withMachine (m.advance event reaction.next), reaction.action)) ∨
    (∃ state, i.react meaning m event payload = (.ignored state, i, none)) ∨
    ∃ state, i.react meaning m event payload = (.rejected state, i, none) := by
  rw [react]
  split
  · exact .inr (.inl ⟨_, rfl⟩)
  · rename_i reaction hr
    split
    · rename_i hguard
      exact .inl ⟨reaction, hr, hguard, rfl⟩
    · exact .inr (.inr ⟨_, rfl⟩)

/-- An event is a move by a row of the table, or it leaves the instance as it is. -/
theorem react_moves (meaning : Meaning L) {m : Machine L} (hm : i.machine = some m)
    (event : String) (payload : Payload) :
    Moves direct forced i (i.react meaning m event payload).2.1 := by
  rcases i.react_cases meaning m event payload with
    ⟨reaction, hr, -, hreact⟩ | ⟨state, hreact⟩ | ⟨state, hreact⟩
  · rw [hreact]
    exact .single (.pass hm hr)
  all_goals rw [hreact]

end Instance

def Request.writesState (id : InstanceId) : Request L → Bool
  | .setAttribute target name _ => target == id && name == stateAttribute
  | _ => false

def Request.forces (id : InstanceId) : Request L → Bool
  | .forceState target _ => target == id
  | _ => false

namespace Domain

/-- An instance of the first state is there in the second, moved on. -/
def Follows (direct forced : Prop) (id : InstanceId) (d d' : Domain L) : Prop :=
  ∀ i, d.instance? id = some i → ∃ i', d'.instance? id = some i' ∧ i.Moves direct forced i'

variable {direct forced : Prop} {id : InstanceId} {d d' : Domain L}

theorem follows_of_instances (h : d'.instances = d.instances) : Follows direct forced id d d' := by
  intro i hi
  refine ⟨i, ?_, .refl⟩
  rw [instance?, h]
  exact hi

theorem chains_follows : Chains (Follows (L := L) direct forced id) where
  refl _ := follows_of_instances rfl
  trans h h' i hi := by
    obtain ⟨i₁, hi₁, hmoves⟩ := h i hi
    obtain ⟨i₂, hi₂, hmoves'⟩ := h' i₁ hi₁
    exact ⟨i₂, hi₂, hmoves.trans hmoves'⟩
  report _ _ _ := follows_of_instances rfl

theorem instance?_id {i : Instance L} (h : d.instance? id = some i) : i.id = id := by
  simpa using List.find?_some h

theorem instance?_updateInstance {target : InstanceId} {change : Instance L → Instance L}
    (hchange : ∀ i, i.id = target → (change i).id = target) :
    (d.updateInstance target change).instance? id =
      (d.instance? id).map fun i => if id = target then change i else i := by
  have hsame : ((fun i : Instance L => i.id == id) ∘
      fun i => if i.id = target then change i else i) = fun i => i.id == id := by
    funext i
    simp only [Function.comp_apply]
    split
    · rw [hchange i ‹_›, ‹i.id = target›]
    · rfl
  rw [instance?, updateInstance, List.find?_map, hsame]
  refine Option.map_congr fun i hi => ?_
  rw [instance?_id hi]

theorem follows_updateInstance {target : InstanceId} {change : Instance L → Instance L}
    (hchange : ∀ i, i.id = target → (change i).id = target)
    (hmoves : ∀ i, d.instance? target = some i → id = target →
      i.Moves direct forced (change i)) :
    Follows direct forced id d (d.updateInstance target change) := by
  intro i hi
  refine ⟨_, (instance?_updateInstance hchange).trans (congrArg (Option.map _) hi), ?_⟩
  split
  · rename_i hid
    exact hmoves i (hid ▸ hi) hid
  · exact .refl

theorem follows_receive (meaning : Meaning L) (signal : Signal) :
    Follows direct forced id d (d.receive meaning signal) := by
  rcases d.receive_cases meaning signal with hsame | ⟨i, m, hi, hm, hreceive⟩
  · rw [hsame]
    exact follows_of_instances rfl
  · rw [hreceive]
    refine follows_updateInstance (fun _ _ => ?_) fun j hj _ => ?_
    · exact (congrArg Prod.fst (i.identity_react meaning m signal.event signal.payload)).trans
        (instance?_id hi)
    · obtain rfl : i = j := Option.some.inj (hi.symm.trans hj)
      exact i.react_moves meaning hm signal.event signal.payload

/-- One case for each request: only attributes, events and forced states touch an instance. -/
theorem follows_effect (meaning : Meaning L) {r : Request L}
    (hdirect : r.writesState id = true → direct) (hforced : r.forces id = true → forced) :
    Follows direct forced id d (r.effect meaning d) := by
  cases r with
  | create reference attributes =>
    simp only [Request.effect, create]
    split
    · exact follows_of_instances rfl
    · -- The new instance comes last, so the one that was there is still found first.
      intro i hi
      refine ⟨i, ?_, .refl⟩
      rw [instance?, List.find?_append]
      exact Option.or_eq_some_iff.2 (.inl hi)
  | delete target =>
    simp only [Request.effect, delete]
    split <;> exact follows_of_instances rfl
  | setAttribute target name value =>
    refine follows_updateInstance (fun _ h => h) fun i _ hid => ?_
    refine .single (.set name value fun hname => hdirect ?_)
    simp [Request.writesState, hid, hname]
  | relate relationship a b =>
    simp only [Request.effect, relate]
    split <;> exact follows_of_instances rfl
  | relateAll relationship pairs =>
    simp only [Request.effect, relateAll]
    split <;> exact follows_of_instances rfl
  | dispatch signal => exact follows_receive meaning signal
  | forceState target state =>
    simp only [Request.effect, forceState]
    split
    · exact follows_of_instances rfl
    · refine follows_updateInstance (fun i h => ?_) fun i _ hid => ?_
      · exact (congrArg Prod.fst (i.identity_force state)).trans h
      · refine .single (.force state (hforced ?_))
        simp [Request.forces, hid]
  | expireTimer timer =>
    simp only [Request.effect]
    split
    · exact follows_of_instances rfl
    · exact chains_follows.trans (e := (d.cancelTimer timer).2) (follows_of_instances rfl)
        (follows_receive meaning _)
  | bridge entity operation arguments =>
    simp only [Request.effect]
    split
    · cases d.logRecord? operation arguments <;> exact follows_of_instances rfl
    · exact follows_of_instances rfl
  | observe | mark | registerClass | registerFunction | registerBridge | unrelate | send
  | startTimer | cancelTimer | cancelAllTimers | freeze | call | report | reset =>
    exact follows_of_instances rfl

theorem LeadsToWithin.follows {allowed : Request L → Bool} {meaning : Meaning L}
    (hdirect : ∀ r, allowed r = true → r.writesState id = true → direct)
    (hforced : ∀ r, allowed r = true → r.forces id = true → forced)
    (h : LeadsToWithin allowed meaning d d') : Follows direct forced id d d' :=
  h.keeps chains_follows fun _ r hr => follows_effect _ (hdirect r hr) (hforced r hr)

theorem LeadsTo.follows {meaning : Meaning L} (h : LeadsTo meaning d d') :
    Follows True True id d d' :=
  h.within_all.follows (fun _ _ _ => trivial) fun _ _ _ => trivial

/-- The instance that was created is in the initial state of its class and has no history. -/
theorem created_instance {meaning : Meaning L} (h : d.Reached meaning) {reference : String}
    (attributes : Payload) {c : ClassDefinition L} {l : Lifecycle L}
    (hc : d.class? reference = some c) (hl : c.lifecycle = some l) :
    ∃ id d' i, d.create reference attributes = (.ok id, d') ∧ d'.instance? id = some i ∧
      i.machine = some { table := l.table, current := l.initialState } ∧ i.ShowsState := by
  have hcreate : d.create reference attributes = (.ok d.store.nextId,
      { d with
        store := (d.store.add c.name).2
        instances := d.instances ++ [c.instantiate d.store.nextId attributes] }) := by
    rw [create, hc]
    rfl
  have hhandle : d.handle meaning 0 (.create reference attributes) =
      some (d.create reference attributes) := rfl
  have hreached := h.step (.answered 0 (hhandle.trans (congrArg some hcreate)))
  have hid : (c.instantiate d.store.nextId attributes).id = d.store.nextId :=
    congrArg Prod.fst (identity_instantiate c d.store.nextId attributes)
  refine ⟨_, _, c.instantiate d.store.nextId attributes, hcreate, ?_, ?_, ?_⟩
  · have hlast := instance?_of_mem hreached.accounted (i := c.instantiate d.store.nextId attributes)
      (List.mem_append_right _ (List.mem_singleton_self _))
    rw [hid] at hlast
    exact hlast
  all_goals simp only [ClassDefinition.instantiate, hl]
  · rfl
  · exact Instance.showsState_withMachine _ _

/-- An instance lives by a lifecycle from a state on. On every run it has a machine whose passages
are rows of the table. As long as nothing writes its state attribute, that attribute tells the
state, and as long as nothing forces its state, the history leads from the initial state to it. -/
structure LivesBy (meaning : Meaning L) (d : Domain L) (id : InstanceId) (l : Lifecycle L) :
    Prop where
  keeps : ∀ d', LeadsTo meaning d d' → ∃ i m, d'.instance? id = some i ∧ i.machine = some m ∧
    m.table = l.table ∧ m.KeepsToTable
  shows : ∀ d' i, LeadsToWithin (fun r => !r.writesState id) meaning d d' →
    d'.instance? id = some i → i.ShowsState
  path : ∀ d' i, LeadsToWithin (fun r => !r.forces id) meaning d d' →
    d'.instance? id = some i → i.OnPathFrom l.initialState

theorem livesBy_of_initial (meaning : Meaning L) {i : Instance L} {l : Lifecycle L}
    (hi : d.instance? id = some i)
    (hm : i.machine = some { table := l.table, current := l.initialState })
    (hshows : i.ShowsState) : d.LivesBy meaning id l where
  keeps d' hrun := by
    obtain ⟨i', hi', hmoves⟩ := hrun.follows i hi
    obtain ⟨m', hm', hgrown⟩ := hmoves.grown hm
    exact ⟨i', m', hi', hm', hgrown.table, hgrown.keeps fun p hp => absurd hp List.not_mem_nil⟩
  shows d' i' hrun hi' := by
    have hfollows : Follows False True id d d' :=
      hrun.follows (fun r hr hwrites => by simp [hwrites] at hr) fun _ _ _ => trivial
    obtain ⟨i₁, hi₁, hmoves⟩ := hfollows i hi
    obtain rfl : i' = i₁ := Option.some.inj (hi'.symm.trans hi₁)
    exact hmoves.showsState hshows
  path d' i' hrun hi' := by
    have hfollows : Follows True False id d d' :=
      hrun.follows (fun _ _ _ => trivial) fun r hr hforces => by simp [hforces] at hr
    obtain ⟨i₁, hi₁, hmoves⟩ := hfollows i hi
    obtain rfl : i' = i₁ := Option.some.inj (hi'.symm.trans hi₁)
    refine hmoves.onPathFrom fun m hm' => ?_
    obtain rfl := Option.some.inj (hm.symm.trans hm')
    rfl

/-- Nothing changes when an instance is replaced by itself. -/
theorem updateInstance_same (h : d.Accounted) {i : Instance L} (hi : d.instance? id = some i) :
    (d.updateInstance id fun _ => i) = d := by
  have hmap : (d.instances.map fun j => if j.id = id then i else j) = d.instances := by
    refine (List.map_congr_left fun j hj => ?_).trans (List.map_id d.instances)
    split
    · -- No two instances have the same number, so this is the one that is replaced.
      rename_i hid
      exact Option.some.inj (hi.symm.trans (hid ▸ instance?_of_mem h hj))
    · rfl
  rw [updateInstance, hmap]

/-- What an event does in a state. One that takes no transition changes nothing at all. One that
does is answered with it whatever becomes of the action, whose fault is only reported; the passage
is in the history before those that the action brings about. -/
structure DispatchesBy (meaning : Meaning L) (d : Domain L) : Prop where
  unchanged : ∀ depth signal outcome d',
    d.handle meaning depth (.dispatch signal) = some (.ok outcome, d') →
    (∀ source target, outcome ≠ .transitioned source target) → d' = d
  completed : ∀ depth signal i m reaction action result e,
    d.instance? signal.target = some i → i.machine = some m →
    m.table.get? m.current signal.event = some reaction →
    (reaction.guard.all fun guard => meaning.guard guard i signal.payload) = true →
    reaction.action = some action →
    execute meaning depth (meaning.action action signal.target signal.payload)
      (d.receive meaning signal) = some (result, e) →
    d.handle meaning depth (.dispatch signal) = some (.ok (.transitioned m.current reaction.next),
      match result with
      | .ok _ => e
      | .error fault =>
        e.report (i.className ++ "[" ++ m.current ++ "/" ++ signal.event ++ "]") fault) ∧
    ∃ i' m', e.instance? signal.target = some i' ∧ i'.machine = some m' ∧
      m.history ++ [⟨m.current, signal.event, reaction.next⟩] <+: m'.history

theorem dispatchesBy_of_accounted (meaning : Meaning L) (h : d.Accounted) :
    d.DispatchesBy meaning where
  unchanged depth signal outcome d' hhandle hnone := by
    simp only [handle, Request.perform, dispatch] at hhandle
    split at hhandle
    · cases hhandle
    · rename_i i hi
      split at hhandle
      · cases hhandle
      · rename_i m hm
        rcases i.react_cases meaning m signal.event signal.payload with
          ⟨reaction, -, -, hreact⟩ | ⟨state, hreact⟩ | ⟨state, hreact⟩
        · rw [hreact] at hhandle
          cases haction : reaction.action with
          | none =>
            simp only [haction] at hhandle
            cases hhandle
            exact absurd rfl (hnone _ _)
          | some action =>
            simp only [haction] at hhandle
            split at hhandle
            · cases hhandle
            all_goals
              cases hhandle
              exact absurd rfl (hnone _ _)
        all_goals
          rw [hreact] at hhandle
          rw [← snd_of_some hhandle]
          exact updateInstance_same h hi
  completed depth signal i m reaction action result e hi hm hr hguard haction hrun := by
    have hreact : i.react meaning m signal.event signal.payload =
        (.transitioned m.current reaction.next,
          i.withMachine (m.advance signal.event reaction.next), some action) := by
      simp only [Instance.react, hr, hguard, haction, if_true]
    have hreceive : d.receive meaning signal = d.updateInstance signal.target fun _ =>
        i.withMachine (m.advance signal.event reaction.next) := by
      rw [receive_of_machine hi hm, hreact]
    constructor
    · rw [hreceive] at hrun
      simp only [handle, Request.perform, dispatch, hi, hm, hreact, hrun]
      cases result <;> rfl
    · have hid : ∀ j : Instance L, j.id = signal.target →
          (i.withMachine (m.advance signal.event reaction.next)).id = signal.target :=
        fun _ _ => show i.id = signal.target from instance?_id hi
      have hentered : (d.receive meaning signal).instance? signal.target =
          some (i.withMachine (m.advance signal.event reaction.next)) := by
        rw [hreceive, instance?_updateInstance hid, hi, Option.map_some, if_pos rfl]
      obtain ⟨i', hi', hmoves⟩ := (LeadsTo.of_execute hrun).follows _ hentered
      obtain ⟨m', hm', hgrown⟩ := hmoves.grown rfl
      exact ⟨i', m', hi', hm', hgrown.history⟩

/-- Machines run by their tables, on every run and through every nesting of actions: from its
creation on an instance lives by the lifecycle of its class, and events act as its table says. -/
theorem reached_machines (meaning : Meaning L) (d : Domain L) (h : d.Reached meaning) :
    (∀ reference attributes c l, d.class? reference = some c → c.lifecycle = some l →
      ∃ id d', d.create reference attributes = (.ok id, d') ∧ d'.LivesBy meaning id l) ∧
    d.DispatchesBy meaning := by
  refine ⟨?_, dispatchesBy_of_accounted meaning h.accounted⟩
  intro reference attributes c l hc hl
  obtain ⟨id, d', i, hcreate, hi, hm, hshows⟩ := created_instance h attributes hc hl
  exact ⟨id, d', hcreate, livesBy_of_initial meaning hi hm hshows⟩

/-- A lamp dims itself when it is turned on, before its action fails. -/
def lamp : ClassDefinition scripts where
  name := "Lamp"
  keyLetters := "LA"
  lifecycle := some {
    initialState := "Off"
    table := .ofRows [
      ⟨"Off", "press", { next := "On", action := some [.dispatch "dim" [], .fail "overheated"] }⟩,
      ⟨"On", "dim", { next := "Dimmed", action := some [.set "level" (.int 1)] }⟩,
      ⟨"Dimmed", "press", { next := "Off", guard := some (.payloadHas "long") }⟩] }

def lampHouse : Domain scripts := ({ name := "house" } : Domain scripts).registerClass lamp

/-- The second press is too short to turn the lamp off. -/
def pressTwice : Procedure scripts (Outcome × Outcome) := do
  let first ← Procedure.request (.dispatch ⟨1, "press", []⟩)
  let second ← Procedure.request (.dispatch ⟨1, "press", []⟩)
  return (first, second)

theorem lampHouse_machines :
    lampHouse.Reached Script.meaning ∧ lampHouse.DispatchesBy Script.meaning ∧
    ∃ l d, lamp.lifecycle = some l ∧ lampHouse.create "la" [] = (.ok 1, d) ∧
      d.LivesBy Script.meaning 1 l ∧
      ∃ outcomes e i, execute Script.meaning 3 pressTwice d = some (.ok outcomes, e) ∧
        outcomes = (.transitioned "Off" "On", .rejected "Dimmed") ∧
        e.instance? 1 = some i ∧
        i.machine.map Machine.history =
          some [⟨"Off", "press", "On"⟩, ⟨"On", "dim", "Dimmed"⟩] ∧
        i.attribute? stateAttribute = some (.string "Dimmed") := by
  have hreached : lampHouse.Reached Script.meaning :=
    ⟨"house", .single (.answered 0 (r := .registerClass lamp) rfl)⟩
  obtain ⟨hcreate, hdispatches⟩ := reached_machines Script.meaning lampHouse hreached
  obtain ⟨l, hl⟩ := Option.isSome_iff_exists.1 (show lamp.lifecycle.isSome = true from rfl)
  obtain ⟨id, d, hcreated, hlives⟩ := hcreate "la" [] lamp l rfl hl
  obtain rfl : id = 1 := by
    have hid : (lampHouse.create "la" []).1.toOption = some 1 := by decide +kernel
    rw [hcreated] at hid
    exact Option.some.inj hid
  have hrun : (executeWithin (fun r => !r.writesState 1) Script.meaning 3 pressTwice
      (lampHouse.create "la" []).2).map (fun result =>
        (result.1.toOption, (result.2.instance? 1).bind fun i =>
          i.machine.map fun m => (m.history, m.current))) =
      some (some (.transitioned "Off" "On", .rejected "Dimmed"),
        some ([⟨"Off", "press", "On"⟩, ⟨"On", "dim", "Dimmed"⟩], "Dimmed")) := by decide +kernel
  rw [hcreated] at hrun
  obtain ⟨⟨result, e⟩, hrun, hstate⟩ := Option.map_eq_some_iff.1 hrun
  simp only [Prod.mk.injEq] at hstate
  obtain ⟨hresult, hmachine⟩ := hstate
  obtain ⟨i, hi, hmachine⟩ := Option.bind_eq_some_iff.1 hmachine
  obtain ⟨m, hm, hmachine⟩ := Option.map_eq_some_iff.1 hmachine
  simp only [Prod.mk.injEq] at hmachine
  obtain ⟨hhistory, hcurrent⟩ := hmachine
  cases result with
  | error fault => cases hresult
  | ok outcomes =>
    have hshows := hlives.shows e i (.of_execute hrun) hi m hm
    rw [hcurrent] at hshows
    refine ⟨hreached, hdispatches, l, d, hl, hcreated, hlives, outcomes, e, i,
      executeWithin_le 3 _ _ _ _ hrun, Option.some.inj hresult, hi, ?_, hshows⟩
    rw [hm, Option.map_some, hhistory]

end Domain

end Execution

end ExecutableUml
