import ExecutableUml.Proofs.Execution.LinkRelations
import ExecutableUml.Proofs.Execution.LiveLinks

/-! Linking in bulk is all or nothing. If an end of the given pairs is not alive, the first such end
is reported and the model stays as it is. Otherwise the relationship gains the given pairs and
nothing else changes, and the answer is the number of pairs that it did not have, where a pair
counts once, however often and in whichever order its ends are given. -/

namespace ExecutableUml.Execution

def ends (pairs : List (InstanceId × InstanceId)) : List InstanceId :=
  pairs.flatMap fun pair => [pair.1, pair.2]

def unordered (pairs : List (InstanceId × InstanceId)) : Finset (Sym2 InstanceId) :=
  (pairs.map fun pair => s(pair.1, pair.2)).toFinset

namespace LinkTable

variable {t : LinkTable} (h : t.Normal)
include h

theorem Normal.across_relateAll (r : String) (pairs : List (InstanceId × InstanceId)) :
    (t.relateAll r pairs).2.relations.across r = t.relations.across r ∪ unordered pairs := by
  ext p
  rw [Relations.mem_across, (h.relateAll r pairs).2, Finset.mem_union, Finset.mem_union,
    Relations.mem_across]
  simp [unordered]

theorem Normal.across_relateAll_of_ne {r other : String} (hother : other ≠ r)
    (pairs : List (InstanceId × InstanceId)) :
    (t.relateAll r pairs).2.relations.across other = t.relations.across other := by
  ext p
  rw [Relations.mem_across, (h.relateAll r pairs).2, Finset.mem_union, Relations.mem_across]
  simp [hother.symm]

/-- The answer counts what the relationship gains. -/
theorem Normal.relateAll_fst (r : String) (pairs : List (InstanceId × InstanceId)) :
    (t.relateAll r pairs).1 = (unordered pairs \ t.relations.across r).card := by
  have hcount := relateAll_count t r pairs
  rw [h.count_eq, (h.relateAll r pairs).1.count_eq, h.across_relateAll] at hcount
  have hcard := Finset.card_sdiff_add_card (unordered pairs) (t.relations.across r)
  rw [Finset.union_comm] at hcard
  omega

end LinkTable

namespace Domain

variable {L : Language}

theorem Change.linksNormal {meaning : Meaning L} {d d' : Domain L} (hchange : Change meaning d d')
    (h : d.links.Normal) : d'.links.Normal := by
  cases hchange with
  | create reference attributes =>
    rw [Domain.create]
    split <;> exact h
  | delete id =>
    rw [Domain.delete]
    split
    · exact (h.forget id).1
    · exact h
  | relate relationship a b =>
    rw [Domain.relate]
    split
    · exact h
    · exact (h.relate relationship a b).1
  | relateAll relationship pairs =>
    rw [Domain.relateAll]
    split
    · exact h
    · exact (h.relateAll relationship pairs).1
  | unrelate relationship a b => exact (h.unrelate relationship a b).1
  | forceState id state =>
    rw [Domain.forceState]
    split <;> exact h
  | reset => exact LinkTable.Normal.empty
  | note | registerClass | registerFunction | registerBridge | setAttribute | react | send
  | startTimer | finishTimer | cancelAllTimers | freeze => exact h

/-- Whatever a model executes, its table has every link once. -/
theorem Reached.linksNormal {meaning : Meaning L} {d : Domain L} (h : d.Reached meaning) :
    d.links.Normal := by
  obtain ⟨name, hrun⟩ := h
  exact hrun.preserves Change.linksNormal LinkTable.Normal.empty

theorem firstDead_eq_some_iff {d : Domain L} {ids : List InstanceId} {dead : InstanceId} :
    d.firstDead ids = some dead ↔
      ∃ before after, ids = before ++ dead :: after ∧
        (∀ id ∈ before, d.store.contains id = true) ∧ d.store.contains dead = false := by
  rw [firstDead, List.find?_eq_some_iff_append]
  simp only [Bool.not_eq_true', Bool.not_eq_false']
  constructor
  · rintro ⟨hdead, before, after, hids, hbefore⟩
    exact ⟨before, after, hids, fun id hid => by simpa using hbefore id hid, hdead⟩
  · rintro ⟨before, after, hids, hbefore, hdead⟩
    exact ⟨hdead, before, after, hids, fun id hid => by simpa using hbefore id hid⟩

/-- Whatever a model has executed, pairs that are given in bulk are all linked, or none of them
is. -/
theorem reached_relateAll (meaning : Meaning L) (d : Domain L) (h : d.Reached meaning)
    (relationship : String) (pairs : List (InstanceId × InstanceId)) :
    ((∃ id ∈ ends pairs, d.store.contains id = false) →
      ∃ before dead after, ends pairs = before ++ dead :: after ∧
        (∀ id ∈ before, d.store.contains id = true) ∧ d.store.contains dead = false ∧
        d.relateAll relationship pairs = (.error (.unknownInstance dead), d)) ∧
    ((∀ id ∈ ends pairs, d.store.contains id = true) →
      ∃ count table, d.relateAll relationship pairs = (.ok count, { d with links := table }) ∧
        d.links.Represents d.links.relations ∧ table.Represents table.relations ∧
        table.relations.across relationship =
          d.links.relations.across relationship ∪ unordered pairs ∧
        (∀ other, other ≠ relationship →
          table.relations.across other = d.links.relations.across other) ∧
        count = (unordered pairs \ d.links.relations.across relationship).card) := by
  have hnormal := h.linksNormal
  constructor
  · rintro ⟨id, hid, hdead⟩
    cases hfirst : d.firstDead (ends pairs) with
    | none =>
      rw [firstDead_eq_none_iff.1 hfirst id hid] at hdead
      cases hdead
    | some dead =>
      obtain ⟨before, after, hends, hbefore, hgone⟩ := firstDead_eq_some_iff.1 hfirst
      refine ⟨before, dead, after, hends, hbefore, hgone, ?_⟩
      rw [ends] at hfirst
      rw [relateAll, hfirst]
  · intro hlive
    have hfirst := firstDead_eq_none_iff.2 hlive
    rw [ends] at hfirst
    refine ⟨(d.links.relateAll relationship pairs).1, (d.links.relateAll relationship pairs).2, ?_,
      hnormal.represents, (hnormal.relateAll relationship pairs).1.represents,
      hnormal.across_relateAll relationship pairs,
      fun other hother => hnormal.across_relateAll_of_ne hother pairs,
      hnormal.relateAll_fst relationship pairs⟩
    rw [relateAll, hfirst]

/-- Three valves, the first and the second linked across one relationship, the second and the third
across another. -/
def linkedValves : Procedure scripts Unit := do
  Procedure.request (.registerClass valve)
  let first ← Procedure.request (.create "Valve" [])
  let second ← Procedure.request (.create "Valve" [])
  let third ← Procedure.request (.create "Valve" [])
  let _ ← Procedure.request (.relate "R1" first second)
  let _ ← Procedure.request (.relate "R2" second third)

theorem linkedValves_relateAll : ∃ d : Domain scripts, d.Reached Script.meaning ∧
    d.relateAll "R1" [(1, 2), (3, 9), (8, 1)] = (.error (.unknownInstance 9), d) ∧
    ∃ table, d.relateAll "R1" [(2, 1), (3, 1), (1, 3), (2, 2)] = (.ok 2, { d with links := table }) ∧
      table.relations.across "R2" = d.links.relations.across "R2" := by
  have hstate : (execute Script.meaning 1 linkedValves { name := "plant" }).map (fun result =>
      (result.2.store.contains 9, (result.2.relateAll "R1" [(1, 2), (3, 9), (8, 1)]).1,
        (ends [(2, 1), (3, 1), (1, 3), (2, 2)]).all result.2.store.contains,
        (result.2.relateAll "R1" [(2, 1), (3, 1), (1, 3), (2, 2)]).1)) =
      some (false, .error (.unknownInstance 9), true, .ok 2) := by decide +kernel
  obtain ⟨⟨result, d⟩, hrun, hstate⟩ := Option.map_eq_some_iff.1 hstate
  simp only [Prod.mk.injEq] at hstate
  obtain ⟨hdead, hfault, hlive, hnew⟩ := hstate
  have hreached : d.Reached Script.meaning := ⟨"plant", .of_execute hrun⟩
  obtain ⟨hrefused, -⟩ := reached_relateAll Script.meaning d hreached "R1" [(1, 2), (3, 9), (8, 1)]
  obtain ⟨-, hlinked⟩ :=
    reached_relateAll Script.meaning d hreached "R1" [(2, 1), (3, 1), (1, 3), (2, 2)]
  obtain ⟨-, dead, -, -, -, -, herror⟩ := hrefused ⟨9, by decide, hdead⟩
  obtain ⟨count, table, hok, -, -, -, hother, -⟩ := hlinked (List.all_eq_true.1 hlive)
  rw [herror] at hfault
  rw [hok] at hnew
  cases hfault
  cases hnew
  exact ⟨d, hreached, herror, table, hok, hother "R2" (by decide)⟩

end Domain

end ExecutableUml.Execution
