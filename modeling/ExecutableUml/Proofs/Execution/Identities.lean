import ExecutableUml.Proofs.Execution.LiveLinks

/-! Identities of instances. The instances that were ever created are numbered in the order of their
creation, the store knows which of them are live, and a number that was given out belongs to its
instance for good: no later creation is given it, and what is gone does not come back. -/

namespace ExecutableUml.Execution

variable {L : Language}

abbrev Identity := InstanceId × String × String

def Instance.identity (i : Instance L) : Identity := (i.id, i.className, i.keyLetters)

theorem Instance.identity_force (i : Instance L) (state : String) :
    (i.force state).identity = i.identity := by
  rw [force]
  split <;> rfl

theorem Instance.identity_react (meaning : Meaning L) (i : Instance L) (m : Machine L)
    (event : String) (payload : Payload) :
    (i.react meaning m event payload).2.1.identity = i.identity := by
  rw [react]
  split
  · rfl
  · split <;> rfl

namespace Store

/-- What a change does to the store and to the list of all creations. -/
inductive Effect (s : Store) (created : List Identity) : Store → List Identity → Prop where
  | kept : Effect s created s created
  | registered (className : String) : Effect s created (s.register className) created
  | added (className keyLetters : String) :
      Effect s created (s.add className).2 (created ++ [(s.nextId, className, keyLetters)])
  | removed (id : InstanceId) : Effect s created (s.remove id) created
  | cleared : Effect s created s.clear created

/-- The store goes with the list of all creations: these are numbered from one, and a live identity
is known by the class that it was created for. -/
structure Accounts (s : Store) (created : List Identity) : Prop where
  consistent : s.Consistent
  nextId : s.nextId = created.length + 1
  numbered : created.map Prod.fst = List.range' 1 created.length
  owned : ∀ id className, s.owner? id = some className →
    ∃ keyLetters, (id, className, keyLetters) ∈ created

theorem Accounts.new : Accounts {} [] :=
  ⟨Consistent.new, rfl, rfl, fun _ _ h => nomatch h⟩

theorem Accounts.effect {s s' : Store} {created created' : List Identity}
    (h : s.Accounts created) (he : Effect s created s' created') : s'.Accounts created' := by
  cases he with
  | kept => exact h
  | registered className =>
    exact ⟨h.consistent.register className, h.nextId, h.numbered, h.owned⟩
  | added className keyLetters =>
    refine ⟨h.consistent.add className, ?_, ?_, ?_⟩
    · simp [add, h.nextId]
    · rw [List.map_append, h.numbered, List.length_append, List.length_singleton,
        List.range'_concat, h.nextId]
      simp [Nat.add_comm]
    · intro id c ho
      rw [owner?_add, Option.or_eq_some_iff] at ho
      rcases ho with ho | ⟨-, ho⟩
      · obtain ⟨kl, hkl⟩ := h.owned id c ho
        exact ⟨kl, List.mem_append_left _ hkl⟩
      · split at ho
        · rename_i hid
          cases ho
          exact ⟨keyLetters, by simp [hid]⟩
        · cases ho
  | removed id =>
    refine ⟨h.consistent.remove id, (s.nextId_remove id).trans h.nextId, h.numbered, ?_⟩
    intro a c ho
    rw [owner?_remove] at ho
    split at ho
    · cases ho
    · exact h.owned a c ho
  | cleared =>
    refine ⟨Consistent.clear s, h.nextId, h.numbered, ?_⟩
    intro id c ho
    cases ho

/-- Creations are only added, and what is not live is either new or gone for good. -/
structure Grows (s : Store) (created : List Identity) (s' : Store) (created' : List Identity) :
    Prop where
  created : created <+: created'
  nextId : s.nextId ≤ s'.nextId
  gone : ∀ id < s.nextId, s.owner? id = none → s'.owner? id = none

theorem Grows.refl (s : Store) (created : List Identity) : Grows s created s created :=
  ⟨List.prefix_refl _, le_rfl, fun _ _ h => h⟩

theorem Grows.trans {s s' s'' : Store} {c c' c'' : List Identity} (h : Grows s c s' c')
    (h' : Grows s' c' s'' c'') : Grows s c s'' c'' :=
  ⟨h.created.trans h'.created, h.nextId.trans h'.nextId,
    fun id hid ho => h'.gone id (hid.trans_le h.nextId) (h.gone id hid ho)⟩

theorem Effect.grows {s s' : Store} {created created' : List Identity}
    (he : Effect s created s' created') : Grows s created s' created' := by
  cases he with
  | kept => exact Grows.refl s created
  | registered className => exact ⟨List.prefix_refl _, le_rfl, fun _ _ h => h⟩
  | added className keyLetters =>
    refine ⟨List.prefix_append _ _, Nat.le_succ _, fun id hid ho => ?_⟩
    rw [owner?_add, ho, Option.none_or, if_neg (Nat.ne_of_lt hid)]
  | removed id =>
    refine ⟨List.prefix_refl _, (s.nextId_remove id).ge, fun a _ ho => ?_⟩
    rw [owner?_remove, ho, ite_self]
  | cleared => exact ⟨List.prefix_refl _, le_rfl, fun _ _ _ => rfl⟩

namespace Accounts

variable {s : Store} {created : List Identity} (h : s.Accounts created)
include h

theorem ids_increasing : (created.map Prod.fst).Pairwise (· < ·) := by
  rw [h.numbered]
  exact List.pairwise_lt_range'

theorem lt_nextId {i : Identity} (hi : i ∈ created) : i.1 < s.nextId := by
  have hid : i.1 ∈ created.map Prod.fst := List.mem_map_of_mem hi
  rw [h.numbered, List.mem_range'_1, Nat.add_comm] at hid
  rw [h.nextId]
  exact hid.2

/-- One number stands for one creation. -/
theorem eq_of_fst_eq {i j : Identity} (hi : i ∈ created) (hj : j ∈ created) (hij : i.1 = j.1) :
    i = j :=
  List.inj_on_of_nodup_map h.ids_increasing.nodup hi hj hij

/-- The extent of a class is the part of all creations that is live and of the class. -/
theorem extent_eq (className : String) :
    s.extent className = (created.map Prod.fst).filter fun id => s.owner? id = some className := by
  have hincreasing := h.consistent.increasing className
  have hfiltered := h.ids_increasing.filter fun id => s.owner? id = some className
  refine List.Perm.eq_of_pairwise (fun a b _ _ hab hba => absurd hab (lt_asymm hba)) hincreasing
    hfiltered ((List.perm_ext_iff_of_nodup hincreasing.nodup hfiltered.nodup).2 fun id => ?_)
  rw [List.mem_filter, decide_eq_true_iff, h.consistent.owner_iff]
  constructor
  · intro hid
    obtain ⟨kl, hkl⟩ := h.owned id className ((h.consistent.owner_iff id className).2 hid)
    exact ⟨List.mem_map.2 ⟨_, hkl, rfl⟩, hid⟩
  · exact fun hid => hid.2

end Accounts

end Store

namespace Domain

def identities (d : Domain L) : List Identity := d.instances.map Instance.identity

def Accounted (d : Domain L) : Prop := d.store.Accounts d.identities

theorem map_fst_identities (d : Domain L) :
    d.identities.map Prod.fst = d.instances.map Instance.id := by
  rw [identities, List.map_map]
  rfl

theorem instance?_of_mem {d : Domain L} (h : d.Accounted) {i : Instance L} (hi : i ∈ d.instances) :
    d.instance? i.id = some i := by
  have hsome : (d.instance? i.id).isSome = true := List.find?_isSome.2 ⟨i, hi, by simp⟩
  obtain ⟨j, hj⟩ := Option.isSome_iff_exists.1 hsome
  have hid : j.id = i.id := by simpa using List.find?_some hj
  have hnodup : (d.instances.map Instance.id).Nodup := by
    rw [← map_fst_identities]
    exact h.ids_increasing.nodup
  rw [hj, List.inj_on_of_nodup_map hnodup (List.mem_of_find?_eq_some hj) hi hid]

theorem instance?_of_identity {d : Domain L} (h : d.Accounted) {i : Identity}
    (hi : i ∈ d.identities) : ∃ j, d.instance? i.1 = some j ∧ j.identity = i := by
  obtain ⟨j, hj, rfl⟩ := List.mem_map.1 hi
  exact ⟨j, instance?_of_mem h hj, rfl⟩

theorem identities_updateInstance {d : Domain L} {id : InstanceId}
    {change : Instance L → Instance L}
    (h : ∀ i ∈ d.instances, i.id = id → (change i).identity = i.identity) :
    (d.updateInstance id change).identities = d.identities := by
  rw [identities, identities, updateInstance, List.map_map]
  refine List.map_congr_left fun i hi => ?_
  rw [Function.comp_apply]
  split
  · exact h i hi ‹_›
  · rfl

theorem identity_instantiate (c : ClassDefinition L) (id : InstanceId) (given : Payload) :
    (c.instantiate id given).identity = (id, c.name, c.keyLetters) := by
  rw [ClassDefinition.instantiate]
  split <;> rfl

/-- Either the class is unknown and nothing happens, or the next identity is given out. -/
theorem create_cases (d : Domain L) (reference : String) (attributes : Payload) :
    (d.class? reference = none ∧
      d.create reference attributes = (.error (.unknownClass reference), d)) ∨
    ∃ c d', d.class? reference = some c ∧
      d.create reference attributes = (.ok d.store.nextId, d') ∧
      d'.store = (d.store.add c.name).2 ∧
      d'.identities = d.identities ++ [(d.store.nextId, c.name, c.keyLetters)] := by
  rw [create]
  split
  · rename_i hnone
    exact .inl ⟨hnone, rfl⟩
  · rename_i c hc
    refine .inr ⟨c, _, hc, rfl, rfl, ?_⟩
    rw [identities, List.map_append, List.map_singleton, identity_instantiate]
    rfl

theorem Change.effect {meaning : Meaning L} {d d' : Domain L} (hchange : Change meaning d d')
    (h : d.Accounted) : Store.Effect d.store d.identities d'.store d'.identities := by
  have hupdate : ∀ {id : InstanceId} {change : Instance L → Instance L},
      (∀ i ∈ d.instances, i.id = id → (change i).identity = i.identity) →
      Store.Effect d.store d.identities (d.updateInstance id change).store
        (d.updateInstance id change).identities := by
    intro id change hkeeps
    rw [identities_updateInstance hkeeps]
    exact .kept
  cases hchange with
  | registerClass c => exact .registered c.name
  | create reference attributes =>
    rcases d.create_cases reference attributes with ⟨-, hcreate⟩ | ⟨c, d', -, hcreate, hs, hi⟩
    · rw [hcreate]
      exact .kept
    · rw [hcreate, hs, hi]
      exact .added c.name c.keyLetters
  | delete id =>
    rw [Domain.delete]
    split
    · exact .removed id
    · exact .kept
  | setAttribute id name value => exact hupdate fun _ _ _ => rfl
  | react hi hm =>
    refine hupdate fun j hj hid => ?_
    have hsame := instance?_of_mem h hj
    rw [hid, hi, Option.some.injEq] at hsame
    rw [Instance.identity_react, hsame]
  | forceState id state =>
    rw [Domain.forceState]
    split
    · exact .kept
    · exact hupdate fun i _ _ => i.identity_force state
  | relate relationship a b =>
    rw [Domain.relate]
    split <;> exact .kept
  | relateAll relationship pairs =>
    rw [Domain.relateAll]
    split <;> exact .kept
  | reset => exact .cleared
  | note | registerFunction | registerBridge | unrelate | send | startTimer | finishTimer
  | cancelAllTimers | freeze => exact .kept

/-- One state of a run is accounted for as the one before is, and has grown from it. -/
theorem LeadsTo.grows {meaning : Meaning L} {d d' : Domain L} (hrun : LeadsTo meaning d d')
    (h : d.Accounted) :
    d'.Accounted ∧ Store.Grows d.store d.identities d'.store d'.identities := by
  refine hrun.preserves (P := fun e =>
    e.Accounted ∧ Store.Grows d.store d.identities e.store e.identities) ?_
    ⟨h, Store.Grows.refl _ _⟩
  rintro e e' hchange ⟨he, hgrows⟩
  have heffect := hchange.effect he
  exact ⟨he.effect heffect, hgrows.trans heffect.grows⟩

theorem Reached.accounted {meaning : Meaning L} {d : Domain L} (h : d.Reached meaning) :
    d.Accounted := by
  obtain ⟨name, hrun⟩ := h
  exact (hrun.grows Store.Accounts.new).1

/-- The two indexes of the store and the list of all instances tell the same about the live ones. -/
structure LiveInstances (d : Domain L) : Prop where
  owner_iff : ∀ id className, d.store.owner? id = some className ↔ id ∈ d.store.extent className
  instance_of_mem : ∀ id className, id ∈ d.store.extent className →
    ∃ i, d.instance? id = some i ∧ i.id = id ∧ i.className = className
  size_eq : d.store.size = ∑ className ∈ d.store.classNames, d.store.count className
  count_eq_zero : ∀ className, className ∉ d.store.classNames → d.store.count className = 0
  extent_eq : ∀ reference c, d.class? reference = some c → d.extent reference =
    (d.instances.filter fun i => d.store.owner? i.id = some c.name).map Instance.id
  increasing : ∀ reference, (d.extent reference).Pairwise (· < ·)

theorem Accounted.liveInstances {d : Domain L} (h : d.Accounted) : d.LiveInstances where
  owner_iff := h.consistent.owner_iff
  instance_of_mem id className hid := by
    obtain ⟨kl, hkl⟩ := h.owned id className ((h.consistent.owner_iff id className).2 hid)
    obtain ⟨i, hi, hidentity⟩ := instance?_of_identity h hkl
    simp only [Instance.identity, Prod.mk.injEq] at hidentity
    exact ⟨i, hi, hidentity.1, hidentity.2.1⟩
  size_eq := h.consistent.size_eq_sum_count
  count_eq_zero className hnot := by
    rw [Store.count, List.length_eq_zero_iff, List.eq_nil_iff_forall_not_mem]
    exact fun id hid => hnot (Store.mem_classNames hid)
  extent_eq reference c hc := by
    have hextent : d.extent reference = d.store.extent c.name := by rw [extent, hc]
    rw [hextent, h.extent_eq, map_fst_identities, List.filter_map]
    rfl
  increasing reference := by
    rw [extent]
    split
    · exact List.Pairwise.nil
    · exact h.consistent.increasing _

/-- What it means from a state on that an identity was given to an instance of a class: no other
creation is given it, it denotes that instance, and once it is not live it never is again. -/
structure GivenTo (meaning : Meaning L) (d : Domain L) (c : ClassDefinition L) (id : InstanceId) :
    Prop where
  unique : ∀ d₁ d₂ reference attributes other, LeadsTo meaning d d₁ →
    d₁.create reference attributes = (.ok other, d₂) → other ≠ id
  denotes : ∀ d₁, LeadsTo meaning d d₁ → ∃ i, d₁.instance? id = some i ∧ i.id = id ∧
    i.className = c.name ∧ i.keyLetters = c.keyLetters
  owner : ∀ d₁ className, LeadsTo meaning d d₁ → d₁.store.owner? id = some className →
    className = c.name
  gone : ∀ d₁ d₂, LeadsTo meaning d d₁ → d₁.store.contains id = false → LeadsTo meaning d₁ d₂ →
    d₂.store.contains id = false

theorem Accounted.givenTo (meaning : Meaning L) {d : Domain L} (h : d.Accounted)
    {c : ClassDefinition L} {id : InstanceId} (hid : (id, c.name, c.keyLetters) ∈ d.identities) :
    d.GivenTo meaning c id where
  unique d₁ d₂ reference attributes other hrun hcreate := by
    obtain ⟨haccounted, hgrows⟩ := hrun.grows h
    have hlt := haccounted.lt_nextId (hgrows.created.subset hid)
    rcases d₁.create_cases reference attributes with ⟨-, hfails⟩ | ⟨_, _, -, hgives, -, -⟩
    · rw [hfails] at hcreate
      cases hcreate
    · rw [hgives] at hcreate
      cases hcreate
      exact (Nat.ne_of_lt hlt).symm
  denotes d₁ hrun := by
    obtain ⟨haccounted, hgrows⟩ := hrun.grows h
    obtain ⟨i, hi, hidentity⟩ := instance?_of_identity haccounted (hgrows.created.subset hid)
    simp only [Instance.identity, Prod.mk.injEq] at hidentity
    exact ⟨i, hi, hidentity⟩
  owner d₁ className hrun howner := by
    obtain ⟨haccounted, hgrows⟩ := hrun.grows h
    obtain ⟨kl, hkl⟩ := haccounted.owned id className howner
    have hsame := haccounted.eq_of_fst_eq hkl (hgrows.created.subset hid) rfl
    exact congrArg (fun i => i.2.1) hsame
  gone d₁ d₂ hrun hgone hrest := by
    obtain ⟨haccounted, hgrows⟩ := hrun.grows h
    have hlt := haccounted.lt_nextId (hgrows.created.subset hid)
    have hnone : d₁.store.owner? id = none := by simpa [Store.contains] using hgone
    rw [Store.contains, (hrest.grows haccounted).2.gone id hlt hnone, Option.isSome_none]

/-- In every state of a run the store tells which of the created instances are live. A creation
either fails and changes nothing, or gives out the number of creations so far as an identity that
stays with its instance. -/
theorem reached_identities (meaning : Meaning L) (d : Domain L) (h : d.Reached meaning) :
    d.LiveInstances ∧
    (∀ reference attributes, d.class? reference = none →
      d.create reference attributes = (.error (.unknownClass reference), d)) ∧
    ∀ reference attributes c, d.class? reference = some c →
      ∃ id d', d.create reference attributes = (.ok id, d') ∧ id = d'.instances.length ∧
        d'.store.owner? id = some c.name ∧ d'.GivenTo meaning c id := by
  have haccounted := h.accounted
  refine ⟨haccounted.liveInstances, ?_, ?_⟩
  · intro reference attributes hnone
    rw [create, hnone]
  · intro reference attributes c hc
    rcases d.create_cases reference attributes with ⟨hnone, -⟩ | ⟨c', d', hc', hcreate, hs, hi⟩
    · rw [hc] at hnone
      cases hnone
    · obtain rfl : c = c' := Option.some.inj (hc.symm.trans hc')
      have haccounted' : d'.Accounted := by
        rw [Accounted, hs, hi]
        exact haccounted.effect (.added c.name c.keyLetters)
      have hlength : d'.instances.length = d.identities.length + 1 := by
        rw [← List.length_map Instance.identity, ← identities, hi, List.length_append,
          List.length_singleton]
      refine ⟨_, d', hcreate, ?_, ?_, haccounted'.givenTo meaning ?_⟩
      · rw [hlength, haccounted.nextId]
      · rw [hs, Store.owner?_add, haccounted.consistent.owner?_nextId, Option.none_or, if_pos rfl]
      · rw [hi]
        exact List.mem_append_right _ (List.mem_singleton_self _)

/-- Of two pumps one is deleted, all is reset, and a third pump is created. -/
def clearedPlant : Procedure scripts Unit := do
  Procedure.request (.registerClass pump)
  let first ← Procedure.request (.create "Pump" [])
  let _ ← Procedure.request (.create "PU" [])
  let _ ← Procedure.request (.delete first)
  Procedure.request .reset
  let _ ← Procedure.request (.create "pump" [])

theorem clearedPlant_identities : ∃ d : Domain scripts, d.Reached Script.meaning ∧
    d.LiveInstances ∧ d.extent "Pump" = [3] ∧
    ∃ c d', d.create "pu" [] = (.ok 4, d') ∧ d'.GivenTo Script.meaning c 4 := by
  have hstate : (execute Script.meaning 1 clearedPlant { name := "plant" }).map (fun result =>
      (result.2.extent "Pump", (result.2.class? "pu").isSome,
        (result.2.create "pu" []).2.instances.length)) = some ([3], true, 4) := by decide +kernel
  obtain ⟨⟨result, d⟩, hrun, hstate⟩ := Option.map_eq_some_iff.1 hstate
  simp only [Prod.mk.injEq] at hstate
  obtain ⟨hextent, hclass, hlength⟩ := hstate
  obtain ⟨c, hc⟩ := Option.isSome_iff_exists.1 hclass
  have hreached : d.Reached Script.meaning := ⟨"plant", .of_execute hrun⟩
  obtain ⟨hlive, -, hcreate⟩ := reached_identities Script.meaning d hreached
  obtain ⟨id, d', hcreated, hid, -, hgiven⟩ := hcreate "pu" [] c hc
  rw [hcreated] at hlength
  rw [hlength] at hid
  subst hid
  exact ⟨d, hreached, hlive, hextent, c, d', hcreated, hgiven⟩

end Domain

end ExecutableUml.Execution
