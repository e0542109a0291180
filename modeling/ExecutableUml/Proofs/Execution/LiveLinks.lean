import ExecutableUml.Execution.Script
import ExecutableUml.Proofs.Execution.Reached
import ExecutableUml.Proofs.Execution.StoreIndexes

/-! No link dangles. In every state that a run comes to, also in the middle of an action, the links
of all relationships join instances that are in the store. What takes instances out of the store
takes their links along, and what is linked is looked up in the store before. -/

namespace ExecutableUml.Execution

variable {L : Language}

/-- The link has its smaller end first, and both of its ends are in the store. -/
structure Link.Live (s : Store) (l : Link) : Prop where
  ordered : l.low ≤ l.high
  low : s.contains l.low = true
  high : s.contains l.high = true

theorem Link.Live.mono {s s' : Store} {l : Link} (h : l.Live s)
    (hs : ∀ id, s.contains id = true → s'.contains id = true) : l.Live s' :=
  ⟨h.ordered, hs _ h.low, hs _ h.high⟩

theorem Link.live_between {s : Store} {a b : InstanceId} (relationship : String)
    (ha : s.contains a = true) (hb : s.contains b = true) : (between relationship a b).Live s where
  ordered := min_le_max
  low := by rcases min_choice a b with h | h <;> simpa [between, h]
  high := by rcases max_choice a b with h | h <;> simpa [between, h]

theorem LinkTable.mem_relate {t : LinkTable} {relationship : String} {a b : InstanceId} {l : Link}
    (h : l ∈ (t.relate relationship a b).2.links) :
    l = .between relationship a b ∨ l ∈ t.links := by
  rw [relate] at h
  split at h
  · exact .inr h
  · exact List.mem_cons.1 h

theorem LinkTable.mem_relateAll {t : LinkTable} {relationship : String}
    {pairs : List (InstanceId × InstanceId)} {l : Link}
    (h : l ∈ (t.relateAll relationship pairs).2.links) :
    (∃ p ∈ pairs, l = .between relationship p.1 p.2) ∨ l ∈ t.links := by
  induction pairs generalizing t with
  | nil => exact .inr h
  | cons p pairs ih =>
    rcases ih h with ⟨q, hq, hl⟩ | hl
    · exact .inl ⟨q, List.mem_cons_of_mem p hq, hl⟩
    · rcases mem_relate hl with hl | hl
      · exact .inl ⟨p, List.mem_cons_self, hl⟩
      · exact .inr hl

namespace Domain

theorem firstDead_eq_none_iff {d : Domain L} {ids : List InstanceId} :
    d.firstDead ids = none ↔ ∀ id ∈ ids, d.store.contains id = true := by
  rw [firstDead, List.find?_eq_none]
  simp only [Bool.not_eq_true', Bool.not_eq_false]

def LinksLive (d : Domain L) : Prop := ∀ l ∈ d.links.links, l.Live d.store

section Operations

variable {d : Domain L} (h : d.LinksLive)
include h

theorem LinksLive.create (reference : String) (attributes : Payload) :
    (d.create reference attributes).2.LinksLive := by
  rw [Domain.create]
  split
  · exact h
  · intro l hl
    exact (h l hl).mono fun id hid => d.store.contains_add hid

theorem LinksLive.delete (id : InstanceId) : (d.delete id).2.LinksLive := by
  rw [Domain.delete]
  split
  · intro l hl
    obtain ⟨hl, htouches⟩ := List.mem_filter.1 hl
    simp only [Link.touches, Bool.not_eq_true', Bool.or_eq_false_iff, beq_eq_false_iff_ne,
      ne_eq] at htouches
    have hlive := h l hl
    exact ⟨hlive.ordered, d.store.contains_remove hlive.low htouches.1,
      d.store.contains_remove hlive.high htouches.2⟩
  · exact h

theorem LinksLive.relate (relationship : String) (a b : InstanceId) :
    (d.relate relationship a b).2.LinksLive := by
  rw [Domain.relate]
  split
  · exact h
  · rename_i hdead
    intro l hl
    rcases LinkTable.mem_relate hl with rfl | hl
    · have hends := firstDead_eq_none_iff.1 hdead
      exact Link.live_between relationship (hends a (by simp)) (hends b (by simp))
    · exact h l hl

theorem LinksLive.relateAll (relationship : String) (pairs : List (InstanceId × InstanceId)) :
    (d.relateAll relationship pairs).2.LinksLive := by
  rw [Domain.relateAll]
  split
  · exact h
  · rename_i hdead
    have hends : ∀ p ∈ pairs, ∀ id ∈ [p.1, p.2], d.store.contains id = true := fun p hp id hid =>
      firstDead_eq_none_iff.1 hdead id (List.mem_flatMap.2 ⟨p, hp, hid⟩)
    intro l hl
    rcases LinkTable.mem_relateAll hl with ⟨p, hp, rfl⟩ | hl
    · exact Link.live_between relationship (hends p hp p.1 (by simp)) (hends p hp p.2 (by simp))
    · exact h l hl

end Operations

theorem Change.linksLive {meaning : Meaning L} {d d' : Domain L} (hchange : Change meaning d d')
    (h : d.LinksLive) : d'.LinksLive := by
  cases hchange with
  | registerClass c => exact fun l hl => (h l hl).mono fun _ hid => hid
  | create reference attributes => exact h.create reference attributes
  | delete id => exact h.delete id
  | relate relationship a b => exact h.relate relationship a b
  | relateAll relationship pairs => exact h.relateAll relationship pairs
  | unrelate relationship a b => exact fun l hl => h l (List.mem_filter.1 hl).1
  | forceState id state =>
    rw [Domain.forceState]
    split <;> exact h
  | reset => exact fun l hl => absurd hl List.not_mem_nil
  | note | registerFunction | registerBridge | setAttribute | react | send | startTimer
  | finishTimer | cancelAllTimers | freeze => exact h

/-- Whatever a model executes, all links join live instances. -/
theorem reached_links_live (meaning : Meaning L) (d : Domain L) (h : d.Reached meaning) :
    ∀ l ∈ d.links.links, l.Live d.store := by
  obtain ⟨name, hrun⟩ := h
  have hnew : LinksLive ({ name } : Domain L) := fun l hl => absurd hl List.not_mem_nil
  exact hrun.preserves Change.linksLive hnew

/-- A pump makes itself a valve when it starts, and is gone when it stops. -/
def pump : ClassDefinition scripts where
  name := "Pump"
  keyLetters := "PU"
  lifecycle := some {
    initialState := "Idle"
    table := .ofRows [
      ⟨"Idle", "start", { next := "Running", action := some [.linkNew "R1" "Valve"] }⟩,
      ⟨"Running", "stop", { next := "Idle", action := some [.deleteSelf] }⟩] }

def valve : ClassDefinition scripts where
  name := "Valve"
  keyLetters := "VA"

/-- The valve that the first pump leaves behind is linked to a second pump. -/
def replacedPump : Procedure scripts Unit := do
  Procedure.request (.registerClass pump)
  Procedure.request (.registerClass valve)
  let first ← Procedure.request (.create "Pump" [])
  let _ ← Procedure.request (.dispatch ⟨first, "start", []⟩)
  let second ← Procedure.request (.create "pu" [])
  let _ ← Procedure.request (.relateAll "R2" [(second, first), (second, 2), (2, second)])
  let _ ← Procedure.request (.dispatch ⟨first, "stop", []⟩)

theorem replacedPump_links_live : ∃ d : Domain scripts, d.Reached Script.meaning ∧
    d.links.links = [⟨"R2", 2, 3⟩] ∧ ∀ l ∈ d.links.links, l.Live d.store := by
  have hlinks : (execute Script.meaning 2 replacedPump { name := "plant" }).map
      (fun result => result.2.links.links) = some [⟨"R2", 2, 3⟩] := by decide +kernel
  obtain ⟨⟨result, d⟩, hrun, hlinks⟩ := Option.map_eq_some_iff.1 hlinks
  have hreached : d.Reached Script.meaning := ⟨"plant", .of_execute hrun⟩
  exact ⟨d, hreached, hlinks, reached_links_live Script.meaning d hreached⟩

end Domain

end ExecutableUml.Execution
