import ExecutableUml.Proofs.Execution.LinkRelations
import ExecutableUml.Proofs.Execution.MachinePaths

/-! Timers and those who race to end them. A timer whose time is over is claimed first and delivers
its signal later; in between, anybody may start, cancel or clear timers and set off code. The claim
and the cancellation are decided by the same pending entry, so in every interleaving a timer ends
once, and what ended it tells whether it delivers. This is said of fewer starts than there are
identities. -/

namespace ExecutableUml.Execution

open Relation

variable {L : Language}

inductive TimerEvent where
  | started (id : TimerId) (signal : Signal)
  | cancelled (id : TimerId) (granted : Bool)
  | claimed (id : TimerId) (granted : Bool)
  | cleared (ids : List TimerId)
  | delivered (id : TimerId) (signal : Signal)

namespace TimerEvent

def startedId? : TimerEvent → Option TimerId
  | .started id _ => some id
  | _ => none

def deliveredId? : TimerEvent → Option TimerId
  | .delivered id _ => some id
  | _ => none

/-- The timer is no longer pending after the event, and was before. -/
def ends (id : TimerId) : TimerEvent → Bool
  | .cancelled timer granted | .claimed timer granted => timer == id && granted
  | .cleared timers => timers.contains id
  | .started .. | .delivered .. => false

theorem startedId?_eq_some {e : TimerEvent} {id : TimerId} (h : e.startedId? = some id) :
    ∃ signal, e = .started id signal := by
  cases e with
  | started timer signal =>
    cases h
    exact ⟨signal, rfl⟩
  | cancelled | claimed | cleared | delivered => cases h

theorem deliveredId?_eq_some {e : TimerEvent} {id : TimerId} (h : e.deliveredId? = some id) :
    ∃ signal, e = .delivered id signal := by
  cases e with
  | delivered timer signal =>
    cases h
    exact ⟨signal, rfl⟩
  | cancelled | claimed | cleared | started => cases h

def startedIds (record : List TimerEvent) : List TimerId := record.filterMap startedId?

theorem mem_startedIds {record : List TimerEvent} {id : TimerId} :
    id ∈ startedIds record ↔ ∃ signal, .started id signal ∈ record := by
  rw [startedIds, List.mem_filterMap]
  constructor
  · rintro ⟨e, he, hid⟩
    obtain ⟨signal, rfl⟩ := startedId?_eq_some hid
    exact ⟨signal, he⟩
  · rintro ⟨signal, hsignal⟩
    exact ⟨_, hsignal, rfl⟩

theorem startedIds_append (record events : List TimerEvent) :
    startedIds (record ++ events) = startedIds record ++ startedIds events :=
  List.filterMap_append

end TimerEvent

open TimerEvent

namespace Timers

theorem mem_active {t : Timers} {id : TimerId} :
    id ∈ t.active ↔ ∃ signal, (id, signal) ∈ t.pending := by
  simp [active, mem_ascending]

theorem isSome_finish {t : Timers} {id : TimerId} :
    (t.finish id).1.isSome = true ↔ id ∈ t.active := by
  simp [finish, mem_active]

/-- Ending a timer that is not pending takes nothing out. -/
theorem pending_finish (t : Timers) (id : TimerId) :
    (t.finish id).2.pending =
      t.pending.filter fun p => !(id == p.1 && (t.finish id).1.isSome) := by
  refine List.filter_congr fun p hp => ?_
  by_cases hid : id = p.1
  · have hsome : (t.finish id).1.isSome = true :=
      isSome_finish.2 (mem_active.2 ⟨p.2, hid ▸ hp⟩)
    simp [hid.symm, hsome]
  · simp [hid, Ne.symm hid]

/-- The record tells which timers were started and which are pending. -/
structure Recorded (t : Timers) (record : List TimerEvent) : Prop where
  nextId : t.nextId = ((startedIds record).length + 1) % timerIds
  started_le : ∀ id ∈ startedIds record, id ≤ (startedIds record).length
  ended_le : ∀ e ∈ record, ∀ id, e.ends id = true → id ≤ (startedIds record).length
  starts_increasing : (startedIds record).Pairwise (· < ·)
  pending_iff : ∀ id signal, (id, signal) ∈ t.pending ↔
    .started id signal ∈ record ∧ ∀ e ∈ record, e.ends id = false
  ends_once : record.Pairwise fun a b => ∀ id, ¬(a.ends id = true ∧ b.ends id = true)

theorem Recorded.new : Recorded {} [] where
  nextId := rfl
  started_le _ h := absurd h List.not_mem_nil
  ended_le _ h := absurd h List.not_mem_nil
  starts_increasing := List.Pairwise.nil
  pending_iff _ _ := by simp
  ends_once := List.Pairwise.nil

variable {t t' : Timers} {record : List TimerEvent}

theorem Recorded.le_of_active (h : t.Recorded record) {id : TimerId} (hid : id ∈ t.active) :
    id ≤ (startedIds record).length := by
  obtain ⟨signal, hsignal⟩ := mem_active.1 hid
  exact h.started_le id (mem_startedIds.2 ⟨signal, ((h.pending_iff id signal).1 hsignal).1⟩)

theorem Recorded.not_ended_of_active (h : t.Recorded record) {id : TimerId}
    (hid : id ∈ t.active) : ∀ e ∈ record, e.ends id = false := by
  obtain ⟨signal, hsignal⟩ := mem_active.1 hid
  exact ((h.pending_iff id signal).1 hsignal).2

/-- As long as not all identities are used up, the next one is the number of the start. -/
theorem Recorded.nextId_eq (h : t.Recorded record)
    (hfew : (startedIds record).length + 1 < timerIds) :
    t.nextId = (startedIds record).length + 1 := by
  rw [h.nextId, Nat.mod_eq_of_lt hfew]

/-- The next identity is above all that were given out, so nothing pending is replaced. -/
theorem Recorded.pending_start (h : t.Recorded record) (signal : Signal)
    (hfew : (startedIds record).length + 1 < timerIds) :
    (t.start signal).2.pending = t.pending ++ [(t.nextId, signal)] := by
  refine congrArg (· ++ _) (List.filter_eq_self.2 fun p hp => ?_)
  have hlt : p.1 < t.nextId := by
    rw [h.nextId_eq hfew]
    exact Nat.lt_succ_of_le (h.le_of_active (mem_active.2 ⟨p.2, hp⟩))
  exact decide_eq_true (Nat.ne_of_lt hlt)

theorem Recorded.not_ended_nextId (h : t.Recorded record)
    (hfew : (startedIds record).length + 1 < timerIds) :
    ∀ e ∈ record, e.ends t.nextId = false := by
  intro e he
  by_contra hends
  have hle := h.ended_le e he _ (Bool.eq_true_of_not_eq_false hends)
  rw [h.nextId_eq hfew] at hle
  exact Nat.not_succ_le_self _ hle

theorem Recorded.pending_start_iff (h : t.Recorded record) (signal : Signal)
    (hfew : (startedIds record).length + 1 < timerIds) (id : TimerId) (s : Signal) :
    (id, s) ∈ (t.start signal).2.pending ↔
      .started id s ∈ record ++ [.started t.nextId signal] ∧
        ∀ e ∈ record ++ [.started t.nextId signal], e.ends id = false := by
  have hstart : (TimerEvent.started t.nextId signal).ends id = false := rfl
  rw [h.pending_start signal hfew, List.forall_mem_append, List.forall_mem_singleton]
  simp only [List.mem_append, List.mem_singleton, hstart, and_true]
  constructor
  · rintro (hs | hs)
    · exact ((h.pending_iff id s).1 hs).imp_left Or.inl
    · cases hs
      exact ⟨Or.inr rfl, h.not_ended_nextId hfew⟩
  · rintro ⟨hstarted | hstarted, hnot⟩
    · exact Or.inl ((h.pending_iff id s).2 ⟨hstarted, hnot⟩)
    · cases hstarted
      exact Or.inr rfl

theorem Recorded.start (h : t.Recorded record) (signal : Signal)
    (hfew : (startedIds record).length + 1 < timerIds) :
    (t.start signal).2.Recorded (record ++ [.started t.nextId signal]) := by
  have hnext := h.nextId_eq hfew
  have hstarted : startedIds (record ++ [.started t.nextId signal]) =
      startedIds record ++ [t.nextId] := startedIds_append record _
  have hlength : (startedIds record ++ [t.nextId]).length = (startedIds record).length + 1 :=
    List.length_append
  refine ⟨?_, ?_, ?_, ?_, h.pending_start_iff signal hfew, ?_⟩
  · rw [hstarted, hlength, ← hnext]
    rfl
  · rw [hstarted, hlength]
    intro id hid
    rcases List.mem_append.1 hid with hid | hid
    · exact Nat.le_succ_of_le (h.started_le id hid)
    · rw [List.mem_singleton.1 hid, hnext]
  · intro e he id hends
    rw [hstarted, hlength]
    rcases List.mem_append.1 he with he | he
    · exact Nat.le_succ_of_le (h.ended_le e he id hends)
    · cases List.mem_singleton.1 he
      cases hends
  · rw [hstarted, List.pairwise_append]
    refine ⟨h.starts_increasing, List.pairwise_singleton _ _, fun a ha b hb => ?_⟩
    rw [List.mem_singleton.1 hb, hnext]
    exact Nat.lt_succ_of_le (h.started_le a ha)
  · rw [List.pairwise_append]
    refine ⟨h.ends_once, List.pairwise_singleton _ _, fun a _ b hb id hboth => ?_⟩
    cases List.mem_singleton.1 hb
    cases hboth.2

/-- An event that starts nothing takes out the timers that it ends, and these were pending. -/
theorem Recorded.append (h : t.Recorded record) {e : TimerEvent} (hstart : e.startedId? = none)
    (hnext : t'.nextId = t.nextId) (hpending : t'.pending = t.pending.filter fun p => !e.ends p.1)
    (hends : ∀ id, e.ends id = true → id ∈ t.active) : t'.Recorded (record ++ [e]) := by
  have hstarted : startedIds (record ++ [e]) = startedIds record := by
    rw [startedIds_append, startedIds, startedIds, List.filterMap_cons_none hstart,
      List.filterMap_nil, List.append_nil]
  refine ⟨?_, ?_, ?_, ?_, ?_, ?_⟩
  · rw [hnext, hstarted, h.nextId]
  · rw [hstarted]
    exact h.started_le
  · intro e' he' id hid
    rw [hstarted]
    rcases List.mem_append.1 he' with he' | he'
    · exact h.ended_le e' he' id hid
    · cases List.mem_singleton.1 he'
      exact h.le_of_active (hends id hid)
  · rw [hstarted]
    exact h.starts_increasing
  · intro id s
    rw [hpending, List.mem_filter, h.pending_iff]
    constructor
    · rintro ⟨⟨hstarted, hnot⟩, hkept⟩
      refine ⟨List.mem_append_left _ hstarted, fun e' he' => ?_⟩
      rcases List.mem_append.1 he' with he' | he'
      · exact hnot e' he'
      · cases List.mem_singleton.1 he'
        simpa using hkept
    · rintro ⟨hstarted, hnot⟩
      have hkept := hnot e (List.mem_append_right _ (List.mem_singleton_self _))
      refine ⟨⟨?_, fun e' he' => hnot e' (List.mem_append_left _ he')⟩, by simpa using hkept⟩
      rcases List.mem_append.1 hstarted with hstarted | hstarted
      · exact hstarted
      · cases List.mem_singleton.1 hstarted
        cases hstart
  · rw [List.pairwise_append]
    refine ⟨h.ends_once, List.pairwise_singleton _ _, fun a ha b hb id hboth => ?_⟩
    cases List.mem_singleton.1 hb
    -- What the event ends was pending until now, so nothing before has ended it.
    have hnot := h.not_ended_of_active (hends id hboth.2) a ha
    rw [hboth.1] at hnot
    cases hnot

/-- Both who cancel a timer and who claim it end it if it is pending, and nothing otherwise. -/
theorem Recorded.finish (h : t.Recorded record) {id : TimerId} {e : TimerEvent}
    (hstart : e.startedId? = none)
    (hends : ∀ timer, e.ends timer = (id == timer && (t.finish id).1.isSome)) :
    (t.finish id).2.Recorded (record ++ [e]) := by
  refine h.append hstart rfl ?_ fun timer htimer => ?_
  · simp only [hends]
    exact t.pending_finish id
  · rw [hends, Bool.and_eq_true, beq_iff_eq] at htimer
    obtain ⟨rfl, hsome⟩ := htimer
    exact isSome_finish.1 hsome

theorem Recorded.clear (h : t.Recorded record) :
    t.cancelAll.2.Recorded (record ++ [.cleared t.active]) := by
  refine h.append rfl rfl ?_ fun timer htimer => ?_
  · refine (List.filter_eq_nil_iff.2 fun p hp => ?_).symm
    have hactive : p.1 ∈ t.active := mem_active.2 ⟨p.2, hp⟩
    simp [TimerEvent.ends, hactive]
  · simpa [TimerEvent.ends] using htimer

end Timers

/-- What a request is recorded with that is not the end of a timer by its time. -/
def Request.timerEvents (d : Domain L) : Request L → List TimerEvent
  | .startTimer signal => [.started (d.startTimer signal).1 signal]
  | .cancelTimer id => [.cancelled id (d.cancelTimer id).1]
  | .cancelAllTimers | .reset => [.cleared d.timers.active]
  | _ => []

theorem timers_receive (meaning : Meaning L) (d : Domain L) (signal : Signal) :
    (d.receive meaning signal).timers = d.timers := by
  rcases d.receive_cases meaning signal with hsame | ⟨i, m, -, -, hreceive⟩
  · rw [hsame]
  · rw [hreceive]
    rfl

/-- One case for each request: timers are started, cancelled, cleared or left as they are. -/
theorem Request.recorded (meaning : Meaning L) {d : Domain L} {record : List TimerEvent}
    (h : d.timers.Recorded record) {r : Request L} (hr : ∀ id, r ≠ .expireTimer id)
    (hfew : (startedIds (record ++ r.timerEvents d)).length < timerIds) :
    (r.effect meaning d).timers.Recorded (record ++ r.timerEvents d) := by
  have hkept : ∀ {d' : Domain L}, d'.timers = d.timers →
      d'.timers.Recorded (record ++ []) := by
    intro d' htimers
    rw [htimers, List.append_nil]
    exact h
  cases r with
  | startTimer signal =>
    rw [startedIds_append, List.length_append] at hfew
    exact h.start signal hfew
  | cancelTimer id => exact h.finish rfl fun _ => rfl
  | cancelAllTimers => exact h.clear
  | reset => exact h.clear
  | expireTimer id => exact absurd rfl (hr id)
  | create reference attributes =>
    refine hkept ?_
    simp only [Request.effect, Domain.create]
    split <;> rfl
  | delete id =>
    refine hkept ?_
    simp only [Request.effect, Domain.delete]
    split <;> rfl
  | relate relationship a b =>
    refine hkept ?_
    simp only [Request.effect, Domain.relate]
    split <;> rfl
  | relateAll relationship pairs =>
    refine hkept ?_
    simp only [Request.effect, Domain.relateAll]
    split <;> rfl
  | dispatch signal => exact hkept (timers_receive meaning d signal)
  | forceState id state =>
    refine hkept ?_
    simp only [Request.effect, Domain.forceState]
    split <;> rfl
  | bridge entity operation arguments =>
    refine hkept ?_
    simp only [Request.effect]
    split
    · cases d.logRecord? operation arguments <;> rfl
    · rfl
  | observe | mark | registerClass | registerFunction | registerBridge | setAttribute | unrelate
  | send | freeze | call | report => exact hkept rfl

theorem Request.deliveredId?_timerEvents (d : Domain L) (r : Request L) :
    (r.timerEvents d).filterMap TimerEvent.deliveredId? = [] := by
  cases r <;> rfl

/-- An executing model with the signals of claimed timers that are still to be delivered, and with
all that happened to its timers so far. -/
structure Course (L : Language) where
  domain : Domain L
  due : List (TimerId × Signal) := []
  record : List TimerEvent := []

namespace Course

/-- One step of somebody: a request is made, a timer whose time is over is claimed, or the signal of
a claimed timer reaches its target. -/
inductive Step (meaning : Meaning L) (c : Course L) : Course L → Prop where
  | requested (r : Request L) (h : ∀ id, r ≠ .expireTimer id) :
      Step meaning c { c with
        domain := r.effect meaning c.domain
        record := c.record ++ r.timerEvents c.domain }
  | claimed (id : TimerId) :
      Step meaning c {
        domain := (c.domain.cancelTimer id).2
        due := c.due ++ ((c.domain.timers.finish id).1.map fun signal => (id, signal)).toList
        record := c.record ++ [.claimed id (c.domain.cancelTimer id).1] }
  | delivered {before after : List (TimerId × Signal)} {id : TimerId} {signal : Signal}
      (h : c.due = before ++ (id, signal) :: after) :
      Step meaning c {
        domain := c.domain.receive meaning signal
        due := before ++ after
        record := c.record ++ [.delivered id signal] }

def LeadsTo (meaning : Meaning L) : Course L → Course L → Prop := ReflTransGen (Step meaning)

def Reached (meaning : Meaning L) (c : Course L) : Prop :=
  ∃ name, LeadsTo meaning { domain := { name } } c

def HasClaimed (record : List TimerEvent) (id : TimerId) (signal : Signal) : Prop :=
  .claimed id true ∈ record ∧ .started id signal ∈ record

theorem HasClaimed.append {record : List TimerEvent} {id : TimerId} {signal : Signal}
    (h : HasClaimed record id signal) (events : List TimerEvent) :
    HasClaimed (record ++ events) id signal :=
  ⟨List.mem_append_left _ h.1, List.mem_append_left _ h.2⟩

/-- The signals that are due or delivered are those of the timers that were claimed. -/
structure Accounted (c : Course L) : Prop where
  recorded : c.domain.timers.Recorded c.record
  due : ∀ id signal, (id, signal) ∈ c.due → HasClaimed c.record id signal
  delivered : ∀ id signal, .delivered id signal ∈ c.record → HasClaimed c.record id signal
  once : (c.due.map Prod.fst ++ c.record.filterMap TimerEvent.deliveredId?).Nodup

theorem mem_deliveredIds {record : List TimerEvent} {id : TimerId} :
    id ∈ record.filterMap TimerEvent.deliveredId? ↔ ∃ signal, .delivered id signal ∈ record := by
  rw [List.mem_filterMap]
  constructor
  · rintro ⟨e, he, hid⟩
    obtain ⟨signal, rfl⟩ := TimerEvent.deliveredId?_eq_some hid
    exact ⟨signal, he⟩
  · rintro ⟨signal, hsignal⟩
    exact ⟨_, hsignal, rfl⟩

variable {c c' : Course L}

theorem Accounted.new (name : String) : ({ domain := { name } } : Course L).Accounted where
  recorded := Timers.Recorded.new
  due _ _ h := absurd h List.not_mem_nil
  delivered _ _ h := absurd h List.not_mem_nil
  once := List.nodup_nil

theorem Accounted.requested (meaning : Meaning L) (h : c.Accounted) {r : Request L}
    (hr : ∀ id, r ≠ .expireTimer id)
    (hfew : (startedIds (c.record ++ r.timerEvents c.domain)).length < timerIds) :
    Accounted { c with
      domain := r.effect meaning c.domain
      record := c.record ++ r.timerEvents c.domain } where
  recorded := Request.recorded meaning h.recorded hr hfew
  due id signal hdue := (h.due id signal hdue).append _
  delivered id signal hdelivered := by
    rcases List.mem_append.1 hdelivered with hold | hnew
    · exact (h.delivered id signal hold).append _
    · have hid := mem_deliveredIds.2 ⟨signal, hnew⟩
      rw [Request.deliveredId?_timerEvents] at hid
      cases hid
  once := by
    rw [List.filterMap_append, Request.deliveredId?_timerEvents, List.append_nil]
    exact h.once

/-- A timer that is pending is neither due nor delivered. -/
theorem Accounted.not_mem_of_active (h : c.Accounted) {id : TimerId}
    (hid : id ∈ c.domain.timers.active) :
    id ∉ c.due.map Prod.fst ++ c.record.filterMap TimerEvent.deliveredId? := by
  have hnot : .claimed id true ∉ c.record := by
    intro hclaimed
    have hends := h.recorded.not_ended_of_active hid _ hclaimed
    simp [TimerEvent.ends] at hends
  intro hmem
  rcases List.mem_append.1 hmem with hdue | hdelivered
  · obtain ⟨⟨timer, signal⟩, hpair, rfl⟩ := List.mem_map.1 hdue
    exact hnot (h.due timer signal hpair).1
  · obtain ⟨signal, hdelivered⟩ := mem_deliveredIds.1 hdelivered
    exact hnot (h.delivered id signal hdelivered).1

theorem Accounted.claimed (h : c.Accounted) (id : TimerId) :
    Accounted {
      domain := (c.domain.cancelTimer id).2
      due := c.due ++ ((c.domain.timers.finish id).1.map fun signal => (id, signal)).toList
      record := c.record ++ [.claimed id (c.domain.cancelTimer id).1] } where
  recorded := h.recorded.finish rfl fun _ => rfl
  due timer signal hdue := by
    rcases List.mem_append.1 hdue with hold | hnew
    · exact (h.due timer signal hold).append _
    · rw [Option.mem_toList, Option.map_eq_some_iff] at hnew
      obtain ⟨_, hfinish, hsame⟩ := hnew
      cases hsame
      have hgranted : (c.domain.cancelTimer id).1 = true := Option.isSome_of_eq_some hfinish
      have hpending := (h.recorded.pending_iff id signal).1 (mem_of_lookup hfinish)
      rw [hgranted]
      exact ⟨List.mem_append_right _ (List.mem_singleton_self _),
        List.mem_append_left _ hpending.1⟩
  delivered timer signal hdelivered := by
    rcases List.mem_append.1 hdelivered with hold | hnew
    · exact (h.delivered timer signal hold).append _
    · cases List.mem_singleton.1 hnew
  once := by
    have hsame : [TimerEvent.claimed id (c.domain.cancelTimer id).1].filterMap
        TimerEvent.deliveredId? = [] := rfl
    rw [List.filterMap_append, hsame, List.append_nil]
    cases hfinish : (c.domain.timers.finish id).1 with
    | none =>
      rw [Option.map_none, Option.toList_none, List.append_nil]
      exact h.once
    | some signal =>
      -- The claim was granted, so the timer was pending and is due for the first time.
      have hactive := Timers.isSome_finish.1 (Option.isSome_of_eq_some hfinish)
      rw [Option.map_some, Option.toList_some, List.map_append, List.map_singleton,
        List.append_assoc, List.singleton_append, List.perm_middle.nodup_iff, List.nodup_cons]
      exact ⟨h.not_mem_of_active hactive, h.once⟩

theorem Accounted.delivers (meaning : Meaning L) (h : c.Accounted)
    {before after : List (TimerId × Signal)} {id : TimerId} {signal : Signal}
    (hdue : c.due = before ++ (id, signal) :: after) :
    Accounted {
      domain := c.domain.receive meaning signal
      due := before ++ after
      record := c.record ++ [.delivered id signal] } where
  recorded := by
    rw [timers_receive]
    refine h.recorded.append rfl rfl ?_ fun timer htimer => ?_
    · exact (List.filter_eq_self.2 fun _ _ => rfl).symm
    · cases htimer
  due timer s hs := by
    have hold : (timer, s) ∈ c.due := by
      rw [hdue]
      exact (List.sublist_cons_self _ _).append_left _ |>.subset hs
    exact (h.due timer s hold).append _
  delivered timer s hs := by
    rcases List.mem_append.1 hs with hold | hnew
    · exact (h.delivered timer s hold).append _
    · cases List.mem_singleton.1 hnew
      have hmem : (id, signal) ∈ c.due := by
        rw [hdue]
        exact List.mem_append_right _ List.mem_cons_self
      exact (h.due id signal hmem).append _
  once := by
    have honce := h.once
    have hsame : [TimerEvent.delivered id signal].filterMap TimerEvent.deliveredId? = [id] := rfl
    rw [hdue, List.map_append, List.map_cons, List.append_assoc, List.cons_append,
      List.perm_middle.nodup_iff] at honce
    rw [List.filterMap_append, hsame, ← List.append_assoc,
      List.perm_append_singleton _ _ |>.nodup_iff, List.map_append, List.append_assoc]
    exact honce

/-- Fewer timers were started than there are identities. -/
def StartsFew (c : Course L) : Prop := (startedIds c.record).length < timerIds

theorem Accounted.step {meaning : Meaning L} (h : c.Accounted) (hstep : Step meaning c c')
    (hfew : c'.StartsFew) : c'.Accounted := by
  cases hstep with
  | requested r hr => exact h.requested meaning hr hfew
  | claimed id => exact h.claimed id
  | delivered hdue => exact h.delivers meaning hdue

theorem StartsFew.of_step {meaning : Meaning L} (hstep : Step meaning c c') (hfew : c'.StartsFew) :
    c.StartsFew := by
  obtain ⟨events, hrecord⟩ : ∃ events, c'.record = c.record ++ events := by
    cases hstep with
    | requested | claimed | delivered => exact ⟨_, rfl⟩
  rw [StartsFew, hrecord, startedIds_append, List.length_append] at hfew
  exact Nat.lt_of_le_of_lt (Nat.le_add_right _ _) hfew

theorem Reached.accounted {meaning : Meaning L} (h : c.Reached meaning) (hfew : c.StartsFew) :
    c.Accounted := by
  obtain ⟨name, hrun⟩ := h
  induction hrun with
  | refl => exact Accounted.new name
  | tail _ hstep ih => exact (ih (hfew.of_step hstep)).step hstep hfew

/-- What the record tells about the ends of timers, and what is pending by it. -/
structure TimersEndOnce (c : Course L) : Prop where
  distinct : (startedIds c.record).Nodup
  ends_once : c.record.Pairwise fun a b => ∀ id, ¬(a.ends id = true ∧ b.ends id = true)
  stopped : ∀ id, (.cancelled id true ∈ c.record ∨ ∃ ids, .cleared ids ∈ c.record ∧ id ∈ ids) →
    ∀ signal, .delivered id signal ∉ c.record
  delivered : ∀ id signal, .delivered id signal ∈ c.record →
    .started id signal ∈ c.record ∧ (c.domain.cancelTimer id).1 = false
  delivered_once : (c.record.filterMap TimerEvent.deliveredId?).Nodup
  active_increasing : c.domain.timers.active.Pairwise (· < ·)
  mem_active : ∀ id, id ∈ c.domain.timers.active ↔
    (∃ signal, .started id signal ∈ c.record) ∧ ∀ e ∈ c.record, e.ends id = false

/-- A timer that was claimed was ended by nothing else. -/
theorem Accounted.eq_claimed (h : c.Accounted) {id : TimerId}
    (hclaimed : .claimed id true ∈ c.record) {e : TimerEvent} (he : e ∈ c.record)
    (hends : e.ends id = true) : e = .claimed id true := by
  by_contra hne
  have hsymm : Std.Symm fun a b : TimerEvent => ∀ id, ¬(a.ends id = true ∧ b.ends id = true) :=
    ⟨fun a b hab id hba => hab id hba.symm⟩
  refine h.recorded.ends_once.forall he hclaimed hne id ⟨hends, ?_⟩
  simp [TimerEvent.ends]

theorem Accounted.timersEndOnce (h : c.Accounted) : c.TimersEndOnce where
  distinct := h.recorded.starts_increasing.nodup
  ends_once := h.recorded.ends_once
  stopped id hstopped signal hdelivered := by
    have hclaimed := (h.delivered id signal hdelivered).1
    rcases hstopped with hcancelled | ⟨ids, hcleared, hid⟩
    · cases h.eq_claimed hclaimed hcancelled (by simp [TimerEvent.ends])
    · cases h.eq_claimed hclaimed hcleared (by simp [TimerEvent.ends, hid])
  delivered id signal hdelivered := by
    refine ⟨(h.delivered id signal hdelivered).2, ?_⟩
    by_contra hgranted
    have hactive := Timers.isSome_finish.1 (Bool.eq_true_of_not_eq_false hgranted)
    exact h.not_mem_of_active hactive
      (List.mem_append_right _ (mem_deliveredIds.2 ⟨signal, hdelivered⟩))
  delivered_once := h.once.of_append_right
  active_increasing := ascending_increasing _
  mem_active id := by
    rw [Timers.mem_active]
    constructor
    · rintro ⟨signal, hpending⟩
      obtain ⟨hstarted, hnot⟩ := (h.recorded.pending_iff id signal).1 hpending
      exact ⟨⟨signal, hstarted⟩, hnot⟩
    · rintro ⟨⟨signal, hstarted⟩, hnot⟩
      exact ⟨signal, (h.recorded.pending_iff id signal).2 ⟨hstarted, hnot⟩⟩

/-- Wherever a course is in the first state with nothing due, it can go to the second. -/
def Realized (meaning : Meaning L) (d d' : Domain L) : Prop :=
  ∀ c : Course L, c.domain = d → c.due = [] →
    ∃ c', LeadsTo meaning c c' ∧ c'.domain = d' ∧ c'.due = []

theorem realized_requested (meaning : Meaning L) (d : Domain L) {r : Request L}
    (hr : ∀ id, r ≠ .expireTimer id) : Realized meaning d (r.effect meaning d) := by
  rintro c rfl hdue
  exact ⟨_, .single (.requested r hr), rfl, hdue⟩

theorem chains_realized (meaning : Meaning L) : Chains (Realized meaning) where
  refl _ c hc hdue := ⟨c, .refl, hc, hdue⟩
  trans h h' c hc hdue := by
    obtain ⟨c₁, hrun, hc₁, hdue₁⟩ := h c hc hdue
    obtain ⟨c₂, hrun', hc₂, hdue₂⟩ := h' c₁ hc₁ hdue₁
    exact ⟨c₂, hrun.trans hrun', hc₂, hdue₂⟩
  report d context fault := by
    have hr : ∀ id, Request.report (L := L) context fault ≠ .expireTimer id := by simp
    exact realized_requested meaning d hr

/-- A timer that expires is claimed, and its signal is delivered at once. -/
theorem realized_expireTimer (meaning : Meaning L) (d : Domain L) (id : TimerId) :
    Realized meaning d (Request.effect meaning d (.expireTimer id)) := by
  rintro c rfl hdue
  have hclaimed : Step meaning c _ := .claimed id
  simp only [Request.effect]
  cases hfinish : (c.domain.timers.finish id).1 with
  | none =>
    rw [hfinish, hdue] at hclaimed
    exact ⟨_, .single hclaimed, rfl, rfl⟩
  | some signal =>
    rw [hfinish, hdue] at hclaimed
    have hone : [] ++ ((some signal).map fun signal => (id, signal)).toList =
        [] ++ (id, signal) :: [] := rfl
    exact ⟨_, .tail (.single hclaimed) (.delivered hone), rfl, rfl⟩

theorem realized_effect (meaning : Meaning L) (d : Domain L) (r : Request L) :
    Realized meaning d (r.effect meaning d) := by
  by_cases hr : ∃ id, r = .expireTimer id
  · obtain ⟨id, rfl⟩ := hr
    exact realized_expireTimer meaning d id
  · exact realized_requested meaning d fun id h => hr ⟨id, h⟩

/-- In every interleaving of those who start, cancel, claim and clear timers, with fewer starts than
there are identities, a timer ends once and delivers only if it was its time that ended it. The runs
of a model are such interleavings. -/
theorem timers_end_once (meaning : Meaning L) :
    (∀ c : Course L, c.Reached meaning → c.StartsFew → c.TimersEndOnce) ∧
    ∀ d : Domain L, d.Reached meaning →
      ∃ c : Course L, c.Reached meaning ∧ c.domain = d ∧ c.due = [] := by
  refine ⟨fun c hc hfew => (hc.accounted hfew).timersEndOnce, fun d hd => ?_⟩
  obtain ⟨name, hrun⟩ := hd
  have hrealized : Realized meaning { name } d :=
    hrun.within_all.keeps (chains_realized meaning) fun d r _ => realized_effect meaning d r
  obtain ⟨c, hcourse, hdomain, hdue⟩ := hrealized { domain := { name } } rfl rfl
  exact ⟨c, ⟨name, hcourse⟩, hdomain, hdue⟩

/-- Of three timers the first is claimed before it is cancelled and delivers after the second was
cancelled; the third is still pending when all is reset. -/
theorem racing_timers_end_once : ∃ c : Course scripts, c.Reached Script.meaning ∧ c.StartsFew ∧
    c.TimersEndOnce ∧ (c.domain.instance? 1).bind Instance.state? = some "Running" ∧
    c.record = [.started 1 ⟨1, "start", []⟩, .started 2 ⟨1, "stop", []⟩,
      .started 3 ⟨1, "stop", []⟩, .claimed 1 true, .cancelled 1 false, .cancelled 2 true,
      .delivered 1 ⟨1, "start", []⟩, .cleared [3]] := by
  have hrun : LeadsTo Script.meaning { domain := { name := "plant" } } _ :=
    ReflTransGen.refl
      |>.tail (.requested (.registerClass Domain.pump) (by simp))
      |>.tail (.requested (.create "Pump" []) (by simp))
      |>.tail (.requested (.startTimer ⟨1, "start", []⟩) (by simp))
      |>.tail (.requested (.startTimer ⟨1, "stop", []⟩) (by simp))
      |>.tail (.requested (.startTimer ⟨1, "stop", []⟩) (by simp))
      |>.tail (.claimed 1)
      |>.tail (.requested (.cancelTimer 1) (by simp))
      |>.tail (.requested (.cancelTimer 2) (by simp))
      |>.tail (.delivered (show _ = [] ++ (1, ⟨1, "start", []⟩) :: [] from rfl))
      |>.tail (.requested .reset (by simp))
  have hreached : Reached Script.meaning _ := ⟨"plant", hrun⟩
  refine ⟨_, hreached, ?few, (timers_end_once Script.meaning).1 _ hreached ?few, rfl, rfl⟩
  show 3 < timerIds
  decide

end Course

end ExecutableUml.Execution
