import ExecutableUml.Execution.Link
import Mathlib.Data.Finset.Card
import Mathlib.Data.Sym.Sym2

/-! A table of links stands for a family of symmetric relations: for each relationship a finite set
of unordered pairs. Every operation does to the table what it does to these sets, it answers by what
it did to them, and every question to the table is a question about them. -/

namespace ExecutableUml.Execution

abbrev Relations := Finset (String × Sym2 InstanceId)

def Relations.across (pairs : Relations) (relationship : String) : Finset (Sym2 InstanceId) :=
  (pairs.filter (·.1 = relationship)).image Prod.snd

theorem Relations.mem_across {pairs : Relations} {relationship : String} {p : Sym2 InstanceId} :
    p ∈ pairs.across relationship ↔ (relationship, p) ∈ pairs := by
  simp [across]

theorem Relations.card_across (pairs : Relations) (relationship : String) :
    (pairs.across relationship).card = (pairs.filter (·.1 = relationship)).card := by
  apply Finset.card_image_of_injOn
  intro x hx y hy hxy
  have hx' := (Finset.mem_filter.1 hx).2
  have hy' := (Finset.mem_filter.1 hy).2
  exact Prod.ext (hx'.trans hy'.symm) hxy

namespace LinkTable

inductive Operation where
  | relate (relationship : String) (a b : InstanceId)
  | relateAll (relationship : String) (pairs : List (InstanceId × InstanceId))
  | unrelate (relationship : String) (a b : InstanceId)
  | forget (id : InstanceId)
  | clear

inductive Answer where
  | changed (yes : Bool)
  | counted (n : Nat)
  | done
deriving DecidableEq

def perform (t : LinkTable) : Operation → Answer × LinkTable
  | .relate r a b => (.changed (t.relate r a b).1, (t.relate r a b).2)
  | .relateAll r pairs => (.counted (t.relateAll r pairs).1, (t.relateAll r pairs).2)
  | .unrelate r a b => (.changed (t.unrelate r a b).1, (t.unrelate r a b).2)
  | .forget id => (.counted (t.forget id).1, (t.forget id).2)
  | .clear => (.done, t.clear)

def performAll (t : LinkTable) : List Operation → List Answer × LinkTable
  | [] => ([], t)
  | op :: ops =>
    let first := t.perform op
    let rest := first.2.performAll ops
    (first.1 :: rest.1, rest.2)

end LinkTable

namespace Relations

open LinkTable

def after (pairs : Relations) : Operation → Relations
  | .relate r a b => insert (r, s(a, b)) pairs
  | .relateAll r new => pairs ∪ (new.map fun p => (r, s(p.1, p.2))).toFinset
  | .unrelate r a b => pairs.erase (r, s(a, b))
  | .forget id => pairs.filter (id ∉ ·.2)
  | .clear => ∅

/-- What the operation has to answer: whether the sets change, how many pairs the relationship
gains, or how many pairs the instance was in. -/
def answer (pairs : Relations) : Operation → Answer
  | .relate r a b => .changed (pairs.after (.relate r a b) ≠ pairs)
  | .relateAll r new =>
    .counted (((pairs.after (.relateAll r new)).across r).card - (pairs.across r).card)
  | .unrelate r a b => .changed (pairs.after (.unrelate r a b) ≠ pairs)
  | .forget id => .counted (pairs.filter (id ∈ ·.2)).card
  | .clear => .done

def performAll (pairs : Relations) : List Operation → List Answer × Relations
  | [] => ([], pairs)
  | op :: ops =>
    let rest := (pairs.after op).performAll ops
    (pairs.answer op :: rest.1, rest.2)

end Relations

def Link.pair (l : Link) : String × Sym2 InstanceId := (l.relationship, s(l.low, l.high))

theorem Link.pair_between (r : String) (a b : InstanceId) : (between r a b).pair = (r, s(a, b)) := by
  rcases Nat.le_total a b with h | h <;> simp [between, pair, h, Sym2.eq_swap]

/-- A link whose smaller end stands first is known by its pair. -/
theorem Link.eq_between {l : Link} (h : l.low ≤ l.high) {r : String} {a b : InstanceId} :
    l = between r a b ↔ l.pair = (r, s(a, b)) := by
  constructor
  · rintro rfl
    exact pair_between r a b
  · obtain ⟨r', low, high⟩ := l
    simp only [pair, between, Prod.mk.injEq, Sym2.eq_iff, Link.mk.injEq] at h ⊢
    rintro ⟨rfl, ⟨rfl, rfl⟩ | ⟨rfl, rfl⟩⟩
    · exact ⟨rfl, (min_eq_left h).symm, (max_eq_right h).symm⟩
    · exact ⟨rfl, (min_eq_right h).symm, (max_eq_left h).symm⟩

theorem Link.touches_iff {l : Link} {id : InstanceId} : l.touches id = true ↔ id ∈ l.pair.2 := by
  rw [touches, Bool.or_eq_true, beq_iff_eq, beq_iff_eq, pair, Sym2.mem_iff, eq_comm,
    @eq_comm _ l.high]

theorem Link.partner?_eq_some {l : Link} {r : String} {a b : InstanceId} :
    l.partner? r a = some b ↔ l.pair = (r, s(a, b)) := by
  obtain ⟨r', low, high⟩ := l
  simp only [partner?, pair, Prod.mk.injEq, Sym2.eq_iff]
  split_ifs <;> simp_all

theorem mem_insertId {a b : InstanceId} {ids : List InstanceId} :
    b ∈ insertId a ids ↔ b = a ∨ b ∈ ids := by
  fun_induction insertId a ids <;> grind

theorem insertId_increasing {a : InstanceId} {ids : List InstanceId} (h : ids.Pairwise (· < ·)) :
    (insertId a ids).Pairwise (· < ·) := by
  fun_induction insertId a ids with
  | case1 => exact List.pairwise_singleton _ _
  | case2 b ids hlt =>
    refine List.pairwise_cons.2 ⟨fun c hc => ?_, h⟩
    rcases List.mem_cons.1 hc with rfl | hc
    · exact hlt
    · exact hlt.trans (List.rel_of_pairwise_cons h hc)
  | case3 => exact h
  | case4 b ids hlt hne ih =>
    refine List.pairwise_cons.2 ⟨fun c hc => ?_, ih (List.Pairwise.of_cons h)⟩
    rcases mem_insertId.1 hc with rfl | hc
    · exact lt_of_le_of_ne (not_lt.1 hlt) (Ne.symm hne)
    · exact List.rel_of_pairwise_cons h hc

theorem mem_ascending {a : InstanceId} {ids : List InstanceId} : a ∈ ascending ids ↔ a ∈ ids := by
  induction ids with
  | nil => rfl
  | cons b ids ih => rw [ascending, List.foldr_cons, mem_insertId, List.mem_cons, ← ih, ascending]

theorem ascending_increasing (ids : List InstanceId) : (ascending ids).Pairwise (· < ·) := by
  induction ids with
  | nil => exact List.Pairwise.nil
  | cons b ids ih => exact insertId_increasing ih

namespace LinkTable

def relations (t : LinkTable) : Relations := (t.links.map Link.pair).toFinset

/-- Every link is there once, its smaller end first. -/
structure Normal (t : LinkTable) : Prop where
  nodup : t.links.Nodup
  ordered : ∀ l ∈ t.links, l.low ≤ l.high

theorem Normal.empty : Normal {} := ⟨List.nodup_nil, fun _ hl => absurd hl List.not_mem_nil⟩

variable {t : LinkTable}

theorem Normal.mem_relations (h : t.Normal) {r : String} {a b : InstanceId} :
    (r, s(a, b)) ∈ t.relations ↔ Link.between r a b ∈ t.links := by
  rw [relations, List.mem_toFinset, List.mem_map]
  constructor
  · rintro ⟨l, hl, hp⟩
    rwa [← (Link.eq_between (h.ordered l hl)).2 hp]
  · intro hl
    exact ⟨_, hl, Link.pair_between r a b⟩

theorem Normal.isRelated_iff (h : t.Normal) {r : String} {a b : InstanceId} :
    t.isRelated r a b = true ↔ (r, s(a, b)) ∈ t.relations := by
  rw [h.mem_relations, isRelated, List.contains_iff_mem]

/-- Different links are different pairs, so links may be counted for pairs. -/
theorem Normal.card_filter (h : t.Normal) (p : String × Sym2 InstanceId → Prop)
    [DecidablePred p] : (t.relations.filter p).card = t.links.countP fun l => p l.pair := by
  have hpairs : (t.links.map Link.pair).Nodup := by
    refine h.nodup.map_on fun l hl m hm hp => ?_
    obtain ⟨r, low, high⟩ := m
    have hm' : (⟨r, low, high⟩ : Link) = Link.between r low high := by
      simp [Link.between, h.ordered _ hm]
    rw [hm', Link.eq_between (h.ordered l hl)]
    exact hp
  have hfilter : t.relations.filter p = ((t.links.map Link.pair).filter fun x => p x).toFinset := by
    ext x
    simp [relations]
  rw [hfilter, List.toFinset_card_of_nodup (hpairs.filter _), ← List.countP_eq_length_filter,
    List.countP_map]
  rfl

theorem Normal.count_eq (h : t.Normal) (r : String) :
    t.count r = (t.relations.across r).card := by
  rw [Relations.card_across, h.card_filter, count]
  apply List.countP_congr
  intro l _
  rw [beq_iff_eq, decide_eq_true_iff, Link.pair]

theorem mem_related {r : String} {a b : InstanceId} :
    b ∈ t.related r a ↔ s(a, b) ∈ t.relations.across r := by
  rw [Relations.mem_across, related, mem_ascending, List.mem_filterMap, relations,
    List.mem_toFinset, List.mem_map]
  simp only [Link.partner?_eq_some]

-- One lemma for each operation: the table stays normal, and its sets change as they should.

theorem Normal.relate (h : t.Normal) (r : String) (a b : InstanceId) :
    (t.relate r a b).2.Normal ∧
      (t.relate r a b).2.relations = insert (r, s(a, b)) t.relations := by
  rw [LinkTable.relate]
  split
  · rename_i hin
    exact ⟨h, (Finset.insert_eq_self.2 (h.isRelated_iff.1 hin)).symm⟩
  · rename_i hin
    rw [isRelated, List.contains_iff_mem] at hin
    refine ⟨⟨List.nodup_cons.2 ⟨hin, h.nodup⟩, ?_⟩, ?_⟩
    · intro l hl
      rcases List.mem_cons.1 hl with rfl | hl
      · exact min_le_max
      · exact h.ordered l hl
    · simp [relations, Link.pair_between]

theorem relate_count (t : LinkTable) (r : String) (a b : InstanceId) :
    (t.relate r a b).1.toNat + t.count r = (t.relate r a b).2.count r := by
  rw [LinkTable.relate]
  split
  · simp
  · simp [count, Link.between, Nat.add_comm]

theorem Normal.relateAll (h : t.Normal) (r : String) (new : List (InstanceId × InstanceId)) :
    (t.relateAll r new).2.Normal ∧ (t.relateAll r new).2.relations =
      t.relations ∪ (new.map fun p => (r, s(p.1, p.2))).toFinset := by
  induction new generalizing t with
  | nil => exact ⟨h, by simp [LinkTable.relateAll]⟩
  | cons p new ih =>
    obtain ⟨hnormal, hfirst⟩ := h.relate r p.1 p.2
    obtain ⟨hrest, hpairs⟩ := ih hnormal
    refine ⟨hrest, ?_⟩
    rw [LinkTable.relateAll, hpairs, hfirst]
    simp

theorem relateAll_count (t : LinkTable) (r : String) (new : List (InstanceId × InstanceId)) :
    (t.relateAll r new).1 + t.count r = (t.relateAll r new).2.count r := by
  induction new generalizing t with
  | nil => simp [LinkTable.relateAll]
  | cons p new ih =>
    have hfirst := relate_count t r p.1 p.2
    have hrest := ih (t.relate r p.1 p.2).2
    simp only [LinkTable.relateAll]
    omega

theorem Normal.filter (h : t.Normal) (p : Link → Bool) : Normal ⟨t.links.filter p⟩ :=
  ⟨h.nodup.filter p, fun l hl => h.ordered l (List.mem_filter.1 hl).1⟩

/-- Links that are left out by their pairs leave these pairs out. -/
theorem relations_filter (t : LinkTable) (p : Link → Bool) (q : String × Sym2 InstanceId → Prop)
    [DecidablePred q] (h : ∀ l ∈ t.links, p l = true ↔ q l.pair) :
    relations ⟨t.links.filter p⟩ = t.relations.filter q := by
  ext x
  simp only [relations, List.mem_toFinset, List.mem_map, List.mem_filter, Finset.mem_filter]
  constructor
  · rintro ⟨l, ⟨hl, hp⟩, rfl⟩
    exact ⟨⟨l, hl, rfl⟩, (h l hl).1 hp⟩
  · rintro ⟨⟨l, hl, rfl⟩, hq⟩
    exact ⟨l, ⟨hl, (h l hl).2 hq⟩, rfl⟩

theorem Normal.unrelate (h : t.Normal) (r : String) (a b : InstanceId) :
    (t.unrelate r a b).2.Normal ∧
      (t.unrelate r a b).2.relations = t.relations.erase (r, s(a, b)) := by
  refine ⟨h.filter _, ?_⟩
  rw [← Finset.filter_ne', LinkTable.unrelate]
  refine relations_filter t _ _ fun l hl => ?_
  rw [decide_eq_true_iff, ne_eq, Link.eq_between (h.ordered l hl)]

theorem Normal.forget (h : t.Normal) (id : InstanceId) :
    (t.forget id).2.Normal ∧ (t.forget id).2.relations = t.relations.filter (id ∉ ·.2) := by
  refine ⟨h.filter _, relations_filter t _ _ fun l _ => ?_⟩
  rw [Bool.not_eq_true', ← Bool.not_eq_true, Link.touches_iff]

/-- One operation on a table is that operation on its sets. -/
theorem Normal.perform (h : t.Normal) (op : Operation) :
    (t.perform op).1 = t.relations.answer op ∧ (t.perform op).2.Normal ∧
      (t.perform op).2.relations = t.relations.after op := by
  cases op with
  | relate r a b =>
    refine ⟨?_, h.relate r a b⟩
    have hnew : (t.relate r a b).1 = !t.isRelated r a b := by
      rw [LinkTable.relate]
      split <;> simp_all
    rw [LinkTable.perform, Relations.answer, hnew, Answer.changed.injEq, Bool.eq_iff_iff,
      decide_eq_true_iff, Bool.not_eq_true', ← Bool.not_eq_true, h.isRelated_iff]
    exact not_congr Finset.insert_eq_self.symm
  | relateAll r new =>
    obtain ⟨hnormal, hpairs⟩ := h.relateAll r new
    refine ⟨?_, hnormal, hpairs⟩
    have hcount := relateAll_count t r new
    rw [hnormal.count_eq, h.count_eq, hpairs] at hcount
    simp only [LinkTable.perform, Relations.answer, Relations.after, Answer.counted.injEq]
    omega
  | unrelate r a b =>
    refine ⟨?_, h.unrelate r a b⟩
    rw [LinkTable.perform, LinkTable.unrelate, Relations.answer, Answer.changed.injEq,
      Bool.eq_iff_iff, decide_eq_true_iff, h.isRelated_iff]
    exact not_not.symm.trans (not_congr Finset.erase_eq_self.symm)
  | forget id =>
    refine ⟨?_, h.forget id⟩
    simp only [LinkTable.perform, LinkTable.forget, Relations.answer, Answer.counted.injEq]
    rw [h.card_filter]
    apply List.countP_congr
    intro l _
    rw [Link.touches_iff, decide_eq_true_iff]
  | clear => exact ⟨rfl, Normal.empty, rfl⟩

theorem Normal.performAll (h : t.Normal) (ops : List Operation) :
    (t.performAll ops).1 = (t.relations.performAll ops).1 ∧ (t.performAll ops).2.Normal ∧
      (t.performAll ops).2.relations = (t.relations.performAll ops).2 := by
  induction ops generalizing t with
  | nil => exact ⟨rfl, h, rfl⟩
  | cons op ops ih =>
    obtain ⟨hanswer, hnormal, hpairs⟩ := h.perform op
    obtain ⟨hanswers, hend, hrest⟩ := ih hnormal
    rw [hpairs] at hanswers hrest
    simp only [LinkTable.performAll, Relations.performAll]
    exact ⟨by rw [hanswer, hanswers], hend, hrest⟩

/-- All that a table can be asked, answered by sets. -/
structure Represents (t : LinkTable) (pairs : Relations) : Prop where
  isRelated : ∀ r a b, t.isRelated r a b = decide (s(a, b) ∈ pairs.across r)
  symmetric : ∀ r a b, t.isRelated r a b = t.isRelated r b a
  partners : ∀ r a b, b ∈ t.related r a ↔ s(a, b) ∈ pairs.across r
  increasing : ∀ r a, (t.related r a).Pairwise (· < ·)
  count : ∀ r, t.count r = (pairs.across r).card

theorem Normal.represents (h : t.Normal) : t.Represents t.relations where
  isRelated r a b := by
    rw [Bool.eq_iff_iff, decide_eq_true_iff, h.isRelated_iff, Relations.mem_across]
  symmetric r a b := by rw [LinkTable.isRelated, LinkTable.isRelated, Link.between_comm]
  partners _ _ _ := mem_related
  increasing _ _ := ascending_increasing _
  count := h.count_eq

/-- Whatever is done to a new table, its answers are those of the sets, and it represents the sets
that come out. -/
theorem performAll_represents (ops : List Operation) :
    (performAll {} ops).1 = (Relations.performAll ∅ ops).1 ∧
      (performAll {} ops).2.Represents (Relations.performAll ∅ ops).2 := by
  obtain ⟨hanswers, hnormal, hpairs⟩ := Normal.empty.performAll ops
  refine ⟨hanswers, ?_⟩
  have hrepresents := hnormal.represents
  rw [hpairs] at hrepresents
  exact hrepresents

-- A link of an instance to itself is one pair, and so is a pair that is given twice.
example : (performAll {} [.relate "R1" 2 2, .relateAll "R1" [(1, 2), (2, 1)], .unrelate "R2" 1 2,
    .forget 2]).1 = [.changed true, .counted 1, .changed false, .counted 2] := by
  decide

end LinkTable

end ExecutableUml.Execution
