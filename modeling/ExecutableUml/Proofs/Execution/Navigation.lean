import ExecutableUml.Execution.Navigation
import ExecutableUml.Execution.Script
import ExecutableUml.Proofs.Execution.LinkRelations
import ExecutableUml.Proofs.Execution.Reached
import ExecutableUml.Proofs.FirstOccurrences

/-! Laws of navigation. Across one relationship, instances that stand for no association see each
other or neither does, whether they are linked directly or through association instances between
them. A chain of hops composes the relations of its hops: it leads to just the ends of chains of
instances, and it may be cut anywhere, since an instance that is met again adds nothing to what is
found first. -/

namespace ExecutableUml.Execution.Domain

variable {L : Language} {d : Domain L}

section OneHop

theorem contains_of_isWanted {wanted : Option String} {id : InstanceId}
    (h : d.isWanted wanted id = true) : d.store.contains id = true := by
  rw [isWanted] at h
  split at h
  · cases h
  · rename_i className howner
    rw [Store.contains, howner, Option.isSome_some]

theorem isWanted_of_mem_reached {relationship : String} {source near id : InstanceId}
    {wanted : Option String} (h : id ∈ d.reached relationship source wanted near) :
    d.isWanted wanted id = true := by
  rw [reached] at h
  split at h
  · cases h
  · split at h
    · exact (Bool.and_eq_true_iff.1 (List.mem_filter.1 h).2).2
    · split at h
      · rename_i hwanted
        rwa [List.mem_singleton.1 h]
      · cases h

theorem mem_related {relationship : String} {source id : InstanceId} {reference : Option String} :
    id ∈ d.related relationship source reference ↔
      ∃ near ∈ d.links.related relationship source,
        id ∈ d.reached relationship source (reference.map d.wantedClass) near := by
  rw [related, distinct_eq_eraseDups, List.mem_eraseDups, List.mem_flatMap]

theorem related_nodup (d : Domain L) (relationship : String) (source : InstanceId)
    (reference : Option String) : (d.related relationship source reference).Nodup := by
  rw [related, distinct_eq_eraseDups]
  exact nodup_eraseDups _

theorem contains_of_mem_related {relationship : String} {source id : InstanceId}
    {reference : Option String} (h : id ∈ d.related relationship source reference) :
    d.store.contains id = true := by
  obtain ⟨near, -, hreached⟩ := mem_related.1 h
  exact contains_of_isWanted (isWanted_of_mem_reached hreached)

def Linked (d : Domain L) (relationship : String) (a b : InstanceId) : Prop :=
  s(a, b) ∈ d.links.relations.across relationship

theorem Linked.symm {relationship : String} {a b : InstanceId} (h : d.Linked relationship a b) :
    d.Linked relationship b a := by
  rw [Linked, Sym2.eq_swap]
  exact h

def IsConnector (d : Domain L) (id : InstanceId) : Prop :=
  ∃ className, d.store.owner? id = some className ∧ d.isAssociation className = true

/-- Linked directly, or both linked to an association instance between them. -/
def Joined (d : Domain L) (relationship : String) (a b : InstanceId) : Prop :=
  d.Linked relationship a b ∨
    a ≠ b ∧ ∃ m, d.IsConnector m ∧ d.Linked relationship a m ∧ d.Linked relationship m b

theorem Joined.symm {relationship : String} {a b : InstanceId} (h : d.Joined relationship a b) :
    d.Joined relationship b a := by
  rcases h with hdirect | ⟨hne, m, hm, ham, hmb⟩
  · exact .inl hdirect.symm
  · exact .inr ⟨hne.symm, m, hm, hmb.symm, ham.symm⟩

/-- A live instance of a class that is no association and is known by its own name. -/
structure Plain (d : Domain L) (id : InstanceId) (className : String) : Prop where
  owner : d.store.owner? id = some className
  noAssociation : d.isAssociation className = false
  named : d.wantedClass className = className

theorem Plain.not_isConnector {id : InstanceId} {className : String} (h : d.Plain id className) :
    ¬ d.IsConnector id := by
  rintro ⟨c, howner, hassociation⟩
  rw [h.owner, Option.some.injEq] at howner
  rw [← howner, h.noAssociation] at hassociation
  cases hassociation

theorem Plain.isWanted {id : InstanceId} {className : String} (h : d.Plain id className)
    {wanted : Option String} (hwanted : ∀ c ∈ wanted, c = className) :
    d.isWanted wanted id = true := by
  rw [Domain.isWanted, h.owner]
  cases wanted with
  | none => rfl
  | some c =>
    rw [hwanted c rfl]
    exact beq_self_eq_true className

/-- An association instance is stepped through, unless its class is asked for. -/
theorem mem_reached_of_isConnector {relationship className : String}
    {source near id : InstanceId} {wanted : Option String}
    (howner : d.store.owner? near = some className) (hassociation : d.isAssociation className = true)
    (hwanted : wanted ≠ some className) :
    id ∈ d.reached relationship source wanted near ↔
      d.Linked relationship near id ∧ id ≠ source ∧ d.isWanted wanted id = true := by
  have hstep : (d.isAssociation className && wanted != some className) = true := by
    rw [hassociation, Bool.true_and, bne_iff_ne]
    exact hwanted
  rw [reached, howner]
  simp only [hstep, if_true]
  rw [List.mem_filter, LinkTable.mem_related, Bool.and_eq_true, bne_iff_ne]
  rfl

theorem eq_of_mem_reached {relationship : String} {source near id : InstanceId}
    {wanted : Option String} (hnear : ¬ d.IsConnector near)
    (h : id ∈ d.reached relationship source wanted near) : near = id := by
  rw [reached] at h
  split at h
  · cases h
  · rename_i className howner
    split at h
    · rename_i hstep
      exact absurd ⟨className, howner, (Bool.and_eq_true_iff.1 hstep).1⟩ hnear
    · split at h
      · exact (List.mem_singleton.1 h).symm
      · cases h

theorem Plain.mem_reached_self {id : InstanceId} {className : String} (h : d.Plain id className)
    {wanted : Option String} (hwanted : ∀ c ∈ wanted, c = className) (relationship : String)
    (source : InstanceId) : id ∈ d.reached relationship source wanted id := by
  rw [reached, h.owner]
  simp only [h.noAssociation, Bool.false_and, Bool.false_eq_true, if_false, h.isWanted hwanted,
    if_true]
  exact List.mem_singleton_self id

/-- A partner leads to a plain instance that is asked for if it is this instance, or if it is an
association instance that has it behind it. -/
theorem Plain.mem_reached {id : InstanceId} {className : String} (h : d.Plain id className)
    {wanted : Option String} (hwanted : ∀ c ∈ wanted, c = className) {relationship : String}
    {source near : InstanceId} :
    id ∈ d.reached relationship source wanted near ↔
      near = id ∨ source ≠ id ∧ d.IsConnector near ∧ d.Linked relationship near id := by
  by_cases hnear : d.IsConnector near
  · obtain ⟨c, howner, hassociation⟩ := hnear
    have hother : wanted ≠ some c := by
      intro hc
      rw [hwanted c hc, h.noAssociation] at hassociation
      cases hassociation
    have hne : near ≠ id := by
      rintro rfl
      exact h.not_isConnector ⟨c, howner, hassociation⟩
    rw [mem_reached_of_isConnector howner hassociation hother]
    constructor
    · rintro ⟨hlinked, hsource, -⟩
      exact .inr ⟨hsource.symm, ⟨c, howner, hassociation⟩, hlinked⟩
    · rintro (hsame | ⟨hsource, -, hlinked⟩)
      · exact absurd hsame hne
      · exact ⟨hlinked, hsource.symm, h.isWanted hwanted⟩
  · constructor
    · intro hreached
      exact .inl (eq_of_mem_reached hnear hreached)
    · rintro (rfl | ⟨-, hconnector, -⟩)
      · exact h.mem_reached_self hwanted relationship source
      · exact absurd hconnector hnear

theorem Plain.mem_related {a b : InstanceId} {className : String} (h : d.Plain b className)
    {reference : Option String} (hreference : ∀ c ∈ reference.map d.wantedClass, c = className)
    {relationship : String} :
    b ∈ d.related relationship a reference ↔ d.Joined relationship a b := by
  simp only [Domain.mem_related, h.mem_reached hreference, LinkTable.mem_related]
  constructor
  · rintro ⟨near, hnear, rfl | ⟨hne, hconnector, hlinked⟩⟩
    · exact .inl hnear
    · exact .inr ⟨hne, near, hconnector, hnear, hlinked⟩
  · rintro (hdirect | ⟨hne, m, hm, ham, hmb⟩)
    · exact ⟨b, hdirect, .inl rfl⟩
    · exact ⟨m, ham, .inr ⟨hne, hm, hmb⟩⟩

/-- Navigation across a relationship is symmetric between plain instances, with and without a class
that is asked for: it leads to what is joined. Whatever is asked for, only live instances are found,
each once. -/
theorem related_symmetric (d : Domain L) :
    (∀ relationship a b classOfA classOfB, d.Plain a classOfA → d.Plain b classOfB →
      (b ∈ d.related relationship a none ↔ a ∈ d.related relationship b none) ∧
      (b ∈ d.related relationship a (some classOfB) ↔
        a ∈ d.related relationship b (some classOfA)) ∧
      (b ∈ d.related relationship a none ↔ d.Joined relationship a b) ∧
      (b ∈ d.related relationship a (some classOfB) ↔ d.Joined relationship a b)) ∧
    ∀ relationship source reference, (d.related relationship source reference).Nodup ∧
      ∀ id ∈ d.related relationship source reference, d.store.contains id = true := by
  refine ⟨fun relationship a b classOfA classOfB ha hb => ?_, fun relationship source reference =>
    ⟨d.related_nodup relationship source reference, fun id => contains_of_mem_related⟩⟩
  have hsymm : d.Joined relationship a b ↔ d.Joined relationship b a := ⟨.symm, .symm⟩
  have hany : ∀ {id : InstanceId} {c : String} (other : InstanceId), d.Plain id c →
      (id ∈ d.related relationship other none ↔ d.Joined relationship other id) :=
    fun _ hid => hid.mem_related (by simp)
  have hclass : ∀ {id : InstanceId} {c : String} (other : InstanceId), d.Plain id c →
      (id ∈ d.related relationship other (some c) ↔ d.Joined relationship other id) :=
    fun _ hid => hid.mem_related (by simp [hid.named])
  refine ⟨?_, ?_, hany a hb, hclass a hb⟩
  · rw [hany a hb, hany b ha, hsymm]
  · rw [hclass a hb, hclass b ha, hsymm]

def company : ClassDefinition scripts := { name := "Company", keyLetters := "CO" }

def person : ClassDefinition scripts := { name := "Person", keyLetters := "PE" }

def employment : ClassDefinition scripts :=
  { name := "Employment", keyLetters := "EM", isAssociation := true }

/-- A company with a link to itself, and a person that it employs twice and is also linked to; the
two employments are linked to each other. -/
def staffedFirm : Procedure scripts Unit := do
  Procedure.request (.registerClass company)
  Procedure.request (.registerClass person)
  Procedure.request (.registerClass employment)
  let firm ← Procedure.request (.create "CO" [])
  let worker ← Procedure.request (.create "PE" [])
  let first ← Procedure.request (.create "EM" [])
  let second ← Procedure.request (.create "EM" [])
  let _ ← Procedure.request (.relateAll "R1" [(firm, firm), (firm, first), (worker, first),
    (second, firm), (second, worker), (firm, worker), (first, second)])

theorem staffedFirm_symmetric : ∃ d : Domain scripts, d.Reached Script.meaning ∧
    d.Plain 1 "Company" ∧ d.Plain 2 "Person" ∧ d.related "R1" 1 none = [1, 2, 4, 3] ∧
    1 ∈ d.related "R1" 2 none ∧ d.related "R1" 1 (some "Person") = [2] ∧
    1 ∈ d.related "R1" 2 (some "Company") := by
  have hstate : (execute Script.meaning 1 staffedFirm { name := "firm" }).map (fun result =>
      ((result.2.store.owner? 1, result.2.isAssociation "Company",
          result.2.wantedClass "Company"),
        (result.2.store.owner? 2, result.2.isAssociation "Person", result.2.wantedClass "Person"),
        result.2.related "R1" 1 none, result.2.related "R1" 1 (some "Person"))) =
      some ((some "Company", false, "Company"), (some "Person", false, "Person"), [1, 2, 4, 3],
        [2]) := by decide +kernel
  obtain ⟨⟨result, d⟩, hrun, hstate⟩ := Option.map_eq_some_iff.1 hstate
  simp only [Prod.mk.injEq] at hstate
  obtain ⟨⟨howner, hassociation, hnamed⟩, ⟨howner', hassociation', hnamed'⟩, hany, hclass⟩ := hstate
  have hcompany : d.Plain 1 "Company" := ⟨howner, hassociation, hnamed⟩
  have hperson : d.Plain 2 "Person" := ⟨howner', hassociation', hnamed'⟩
  obtain ⟨hsymm, hsymm', -⟩ := (related_symmetric d).1 "R1" 1 2 _ _ hcompany hperson
  refine ⟨d, ⟨"firm", .of_execute hrun⟩, hcompany, hperson, hany, hsymm.1 ?_, hclass, hsymm'.1 ?_⟩
  · rw [hany]
    decide
  · rw [hclass]
    decide

end OneHop

section Hops

/-- A chain of instances along the hops: each hop leads from one instance to the next. -/
inductive Chain (d : Domain L) : InstanceId → List (String × Option String) → InstanceId → Prop where
  | here (a : InstanceId) : Chain d a [] a
  | step {a b c : InstanceId} {hop : String × Option String} {hops : List (String × Option String)}
      (first : b ∈ d.related hop.1 a hop.2) (rest : Chain d b hops c) : Chain d a (hop :: hops) c

theorem hop_eq (d : Domain L) (frontier : List InstanceId) (step : String × Option String) :
    d.hop frontier step = (frontier.flatMap fun id => d.related step.1 id step.2).eraseDups :=
  distinct_eq_eraseDups _

theorem hop_nodup (d : Domain L) (frontier : List InstanceId) (step : String × Option String) :
    (d.hop frontier step).Nodup := by
  rw [hop_eq]
  exact nodup_eraseDups _

theorem mem_hop {frontier : List InstanceId} {step : String × Option String} {b : InstanceId} :
    b ∈ d.hop frontier step ↔ ∃ a ∈ frontier, b ∈ d.related step.1 a step.2 := by
  rw [hop_eq, List.mem_eraseDups, List.mem_flatMap]

theorem mem_foldl_hop {hops : List (String × Option String)} {frontier : List InstanceId}
    {c : InstanceId} : c ∈ hops.foldl d.hop frontier ↔ ∃ a ∈ frontier, d.Chain a hops c := by
  induction hops generalizing frontier with
  | nil =>
    constructor
    · intro hc
      exact ⟨c, hc, .here c⟩
    · rintro ⟨a, ha, hchain⟩
      cases hchain
      exact ha
  | cons step hops ih =>
    rw [List.foldl_cons, ih]
    constructor
    · rintro ⟨b, hb, hrest⟩
      obtain ⟨a, ha, hfirst⟩ := mem_hop.1 hb
      exact ⟨a, ha, .step hfirst hrest⟩
    · rintro ⟨a, ha, hchain⟩
      cases hchain with
      | step hfirst hrest => exact ⟨_, mem_hop.2 ⟨a, ha, hfirst⟩, hrest⟩

theorem foldl_hop_nodup {hops : List (String × Option String)} {frontier : List InstanceId}
    (h : frontier.Nodup) : (hops.foldl d.hop frontier).Nodup :=
  List.foldlRecOn hops _ h fun frontier _ step _ => d.hop_nodup frontier step

/-- Hops from a whole frontier find what the hops from its members find, one member after
another. -/
theorem foldl_hop_eq (hops : List (String × Option String)) {frontier : List InstanceId}
    (h : frontier.Nodup) :
    hops.foldl d.hop frontier = (frontier.flatMap fun id => d.navigate id hops).eraseDups := by
  induction hops generalizing frontier with
  | nil =>
    change frontier = (frontier.flatMap fun id => [id]).eraseDups
    rw [List.flatMap_singleton', eraseDups_of_nodup h]
  | cons step hops ih =>
    -- What is met twice after the first hop leads to nothing new after the others.
    have hstep : ∀ starts, hops.foldl d.hop (d.hop starts step) = ((starts.flatMap fun id =>
        d.related step.1 id step.2).flatMap fun id => d.navigate id hops).eraseDups := by
      intro starts
      rw [ih (d.hop_nodup starts step), hop_eq, eraseDups_flatMap_eraseDups]
    have hone : ∀ id, d.navigate id (step :: hops) =
        ((d.related step.1 id step.2).flatMap fun id => d.navigate id hops).eraseDups := by
      intro id
      rw [navigate, List.foldl_cons, hstep, List.flatMap_singleton]
    simp only [hone]
    rw [List.foldl_cons, hstep, List.flatMap_assoc, eraseDups_flatMap_parts]

/-- A chain of hops finds the ends of the chains of instances along it, each once, and a second part
of it may be followed from every instance that the first part finds. -/
theorem navigate_composes (d : Domain L) :
    (∀ source hops, (d.navigate source hops).Nodup ∧
      ∀ target, target ∈ d.navigate source hops ↔ d.Chain source hops target) ∧
    ∀ source first second, d.navigate source (first ++ second) =
      ((d.navigate source first).flatMap fun id => d.navigate id second).eraseDups := by
  have hnodup : ∀ source hops, (d.navigate source hops).Nodup := fun source hops =>
    foldl_hop_nodup (List.nodup_singleton source)
  refine ⟨fun source hops => ⟨hnodup source hops, fun target => ?_⟩, fun source first second => ?_⟩
  · rw [navigate, mem_foldl_hop]
    simp only [List.mem_singleton, exists_eq_left]
  · rw [navigate, List.foldl_append]
    exact foldl_hop_eq second (hnodup source first)

end Hops

end ExecutableUml.Execution.Domain
