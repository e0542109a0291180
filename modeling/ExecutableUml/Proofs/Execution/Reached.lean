import ExecutableUml.Proofs.Execution.Effects

/-! Runs of an executing model. A run goes from state to state by answered requests; what happens
inside the code that a request sets off belongs to it too, so a state counts as reached also when an
action is only about to run or is not over yet. Every such run is a sequence of elementary changes,
and what each of these preserves holds in every state that is reached. Where some requests would
break a property, it is stated for the runs in which nobody makes them. -/

namespace ExecutableUml.Execution

open Relation

variable {L : Language}

namespace Domain

/-- One step of a run: a request is answered, or a transition is taken and its action is about to
run. Code that a function or a bridge calls starts in the state of the call, and a timer that
expires dispatches its signal in the state that it leaves when it is cancelled. -/
inductive Step (meaning : Meaning L) (d : Domain L) : Domain L → Prop where
  | answered (depth : Nat) {r : Request L} {answer : Except Fault r.Answer} {d' : Domain L}
      (h : d.handle meaning depth r = some (answer, d')) : Step meaning d d'
  | entered {signal : Signal} {i i' : Instance L} {m : Machine L} {outcome : Outcome}
      {action : L.Action} (hi : d.instance? signal.target = some i) (hm : i.machine = some m)
      (hr : i.react meaning m signal.event signal.payload = (outcome, i', some action)) :
      Step meaning d (d.updateInstance signal.target fun _ => i')

def LeadsTo (meaning : Meaning L) : Domain L → Domain L → Prop := ReflTransGen (Step meaning)

/-- A step in which only allowed requests are made, also by the code that is set off. -/
inductive StepWithin (allowed : Request L → Bool) (meaning : Meaning L) (d : Domain L) :
    Domain L → Prop where
  | answered (depth : Nat) {r : Request L} {answer : Except Fault r.Answer} {d' : Domain L}
      (hr : allowed r = true)
      (h : r.perform meaning (executeWithin allowed meaning depth) d = some (answer, d')) :
      StepWithin allowed meaning d d'
  | entered {signal : Signal} {i i' : Instance L} {m : Machine L} {outcome : Outcome}
      {action : L.Action} (hsignal : allowed (.dispatch signal) = true)
      (hi : d.instance? signal.target = some i) (hm : i.machine = some m)
      (hr : i.react meaning m signal.event signal.payload = (outcome, i', some action)) :
      StepWithin allowed meaning d (d.updateInstance signal.target fun _ => i')

/-- A run in which only allowed requests are made goes from the first state to the second. -/
def LeadsToWithin (allowed : Request L → Bool) (meaning : Meaning L) : Domain L → Domain L → Prop :=
  ReflTransGen (StepWithin allowed meaning)

def Reached (meaning : Meaning L) (d : Domain L) : Prop := ∃ name, LeadsTo meaning { name } d

/-- What is done at once, without any code in between. -/
inductive Change (meaning : Meaning L) (d : Domain L) : Domain L → Prop where
  | note (entry : Entry) : Change meaning d (d.note entry)
  | registerClass (c : ClassDefinition L) : Change meaning d (d.registerClass c)
  | registerFunction (name : String) (routine : L.Routine) :
      Change meaning d (d.registerFunction name routine)
  | registerBridge (entity : String) (bridge : Bridge L) :
      Change meaning d (d.registerBridge entity bridge)
  | create (reference : String) (attributes : Payload) :
      Change meaning d (d.create reference attributes).2
  | delete (id : InstanceId) : Change meaning d (d.delete id).2
  | setAttribute (id : InstanceId) (name : String) (value : Json) :
      Change meaning d (d.updateInstance id (Instance.setAttribute name value))
  | relate (relationship : String) (a b : InstanceId) :
      Change meaning d (d.relate relationship a b).2
  | relateAll (relationship : String) (pairs : List (InstanceId × InstanceId)) :
      Change meaning d (d.relateAll relationship pairs).2
  | unrelate (relationship : String) (a b : InstanceId) :
      Change meaning d (d.unrelate relationship a b).2
  | react {signal : Signal} {i : Instance L} {m : Machine L}
      (hi : d.instance? signal.target = some i) (hm : i.machine = some m) :
      Change meaning d (d.updateInstance signal.target fun _ =>
        (i.react meaning m signal.event signal.payload).2.1)
  | forceState (id : InstanceId) (state : String) : Change meaning d (d.forceState id state).2
  | send (target : InstanceId) (name : String) (payload : Payload) :
      Change meaning d (d.send target name payload)
  | startTimer (signal : Signal) : Change meaning d (d.startTimer signal).2
  | finishTimer (id : TimerId) : Change meaning d (d.cancelTimer id).2
  | cancelAllTimers : Change meaning d d.cancelAllTimers.2
  | freeze (instant : Instant) : Change meaning d { d with now := instant }
  | reset : Change meaning d d.reset

abbrev Changes (meaning : Meaning L) : Domain L → Domain L → Prop := ReflTransGen (Change meaning)

end Domain

open Domain

section Within

variable {allowed : Request L → Bool} {meaning : Meaning L} {d d' : Domain L}

theorem Domain.StepWithin.keeps {R : Domain L → Domain L → Prop} (hR : Chains R)
    (heffect : ∀ d r, allowed r = true → R d (r.effect meaning d))
    (h : StepWithin allowed meaning d d') : R d d' := by
  cases h with
  | answered depth hr h =>
    exact hR.trans (heffect d _ hr) (perform_keeps hR (executeWithin_keeps hR heffect depth) h)
  | @entered signal i i' m outcome action hsignal hi hm hr =>
    have hreceive : R d (d.receive meaning signal) := heffect d _ hsignal
    rw [receive_of_machine hi hm, hr] at hreceive
    exact hreceive

/-- What the effect of every allowed request keeps, every run within them keeps. -/
theorem Domain.LeadsToWithin.keeps {R : Domain L → Domain L → Prop} (hR : Chains R)
    (heffect : ∀ d r, allowed r = true → R d (r.effect meaning d))
    (h : LeadsToWithin allowed meaning d d') : R d d' := by
  induction h with
  | refl => exact hR.refl d
  | tail _ hstep ih => exact hR.trans ih (hstep.keeps hR heffect)

/-- A procedure that is executed to its end is a run. -/
theorem Domain.LeadsToWithin.of_execute {depth : Nat} {α : Type} {procedure : Procedure L α}
    {result : Except Fault α}
    (h : executeWithin allowed meaning depth procedure d = some (result, d')) :
    LeadsToWithin allowed meaning d d' := by
  cases depth with
  | zero => cases h
  | succ depth =>
    change procedure.run _ d = _ at h
    induction procedure generalizing d with
    | done => exact snd_of_some h ▸ .refl
    | ask r next ih =>
      rw [Procedure.run] at h
      split at h
      · cases h
      · rename_i hfirst
        split at hfirst
        · rename_i hr
          exact .head (.answered depth hr hfirst) (ih _ h)
        · cases hfirst

end Within

variable {meaning : Meaning L} {d d' : Domain L}

theorem executeWithin_all (depth : Nat) :
    @executeWithin L (fun _ => true) meaning depth = @execute L meaning depth := by
  induction depth with
  | zero => rfl
  | succ depth ih =>
    funext α procedure d
    simp only [executeWithin, execute, ih, if_true]

theorem Domain.LeadsTo.within_all (h : LeadsTo meaning d d') :
    LeadsToWithin (fun _ => true) meaning d d' := by
  refine ReflTransGen.mono (fun e e' hstep => ?_) d d' h
  cases hstep with
  | @answered depth r answer _ h =>
    have hwithin : r.perform meaning (executeWithin (fun _ => true) meaning depth) e =
        some (answer, e') := by
      rw [executeWithin_all]
      exact h
    exact .answered depth rfl hwithin
  | entered hi hm hr => exact .entered rfl hi hm hr

theorem chains_changes (meaning : Meaning L) : Chains (Changes meaning) :=
  ⟨fun _ => .refl, .trans, fun _ _ _ => .single (.note _)⟩

theorem receive_changes (d : Domain L) (signal : Signal) :
    Changes meaning d (d.receive meaning signal) := by
  rcases receive_cases meaning d signal with hsame | ⟨i, m, hi, hm, hreceive⟩
  · rw [hsame]
  · rw [hreceive]
    exact .single (.react hi hm)

/-- One case for each request: what it does at once is elementary. -/
theorem effect_changes (d : Domain L) (r : Request L) : Changes meaning d (r.effect meaning d) := by
  cases r with
  | observe | call => exact .refl
  | mark text => exact .single (.note _)
  | registerClass c => exact .single (.registerClass c)
  | registerFunction name routine => exact .single (.registerFunction name routine)
  | registerBridge entity bridge => exact .single (.registerBridge entity bridge)
  | create reference attributes => exact .single (.create reference attributes)
  | delete id => exact .single (.delete id)
  | setAttribute id name value => exact .single (.setAttribute id name value)
  | relate relationship a b => exact .single (.relate relationship a b)
  | relateAll relationship pairs => exact .single (.relateAll relationship pairs)
  | unrelate relationship a b => exact .single (.unrelate relationship a b)
  | dispatch signal => exact receive_changes d signal
  | forceState id state => exact .single (.forceState id state)
  | send target name payload => exact .single (.send target name payload)
  | startTimer signal => exact .single (.startTimer signal)
  | cancelTimer id => exact .single (.finishTimer id)
  | cancelAllTimers => exact .single .cancelAllTimers
  | expireTimer id =>
    simp only [Request.effect]
    split
    · exact .single (.finishTimer id)
    · exact .head (.finishTimer id) (receive_changes _ _)
  | freeze instant => exact .single (.freeze instant)
  | bridge entity operation arguments =>
    simp only [Request.effect]
    split
    · cases d.logRecord? operation arguments with
      | none => exact .refl
      | some entry => exact .single (.note entry)
    · exact .refl
  | report context fault => exact .single (.note _)
  | reset => exact .single .reset

theorem Domain.LeadsTo.changes (h : LeadsTo meaning d d') : Changes meaning d d' :=
  h.within_all.keeps (chains_changes meaning) fun d r _ => effect_changes d r

/-- What every elementary change preserves, every run preserves. -/
theorem Domain.LeadsTo.preserves {P : Domain L → Prop}
    (hP : ∀ {d d' : Domain L}, Change meaning d d' → P d → P d') (h : LeadsTo meaning d d')
    (hd : P d) : P d' := by
  have hrun : ∀ e, Changes meaning d e → P e := by
    intro e he
    induction he with
    | refl => exact hd
    | tail _ hchange ih => exact hP hchange ih
  exact hrun d' h.changes

theorem Domain.LeadsToWithin.leadsTo {allowed : Request L → Bool}
    (h : LeadsToWithin allowed meaning d d') : LeadsTo meaning d d' := by
  refine ReflTransGen.mono (fun e e' hstep => ?_) d d' h
  cases hstep with
  | answered depth _ h => exact .answered depth (perform_mono (executeWithin_le depth) h)
  | entered _ hi hm hr => exact .entered hi hm hr

/-- A procedure that is executed to its end is a run. -/
theorem Domain.LeadsTo.of_execute {depth : Nat} {α : Type} {procedure : Procedure L α}
    {result : Except Fault α} (h : execute meaning depth procedure d = some (result, d')) :
    LeadsTo meaning d d' := by
  rw [← executeWithin_all] at h
  exact (LeadsToWithin.of_execute h).leadsTo

theorem Domain.Reached.step (h : d.Reached meaning) (hstep : Step meaning d d') :
    d'.Reached meaning := by
  obtain ⟨name, hrun⟩ := h
  exact ⟨name, hrun.tail hstep⟩

end ExecutableUml.Execution
