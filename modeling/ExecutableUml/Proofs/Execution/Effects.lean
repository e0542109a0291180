import ExecutableUml.Execution.Run
import Mathlib.Logic.Relation

/-! What requests do to an executing model. A request has an effect of its own, which is there at
once, and may set off code, which makes further requests. So whatever holds along the effects of
single requests holds along everything that is executed. -/

namespace ExecutableUml.Execution

variable {L : Language}

/-- The state change of an event: its transition is taken, if there is one, and no action has
run. -/
def Domain.receive (meaning : Meaning L) (d : Domain L) (signal : Signal) : Domain L :=
  match d.instance? signal.target with
  | none => d
  | some i =>
    match i.machine with
    | none => d
    | some m =>
      d.updateInstance signal.target fun _ =>
        (i.react meaning m signal.event signal.payload).2.1

namespace Domain

variable {meaning : Meaning L} {d : Domain L} {signal : Signal} {i : Instance L}

theorem receive_of_none (hi : d.instance? signal.target = none) : d.receive meaning signal = d := by
  simp only [receive, hi]

theorem receive_of_no_machine (hi : d.instance? signal.target = some i) (hm : i.machine = none) :
    d.receive meaning signal = d := by
  simp only [receive, hi, hm]

theorem receive_of_machine (hi : d.instance? signal.target = some i) {m : Machine L}
    (hm : i.machine = some m) :
    d.receive meaning signal = d.updateInstance signal.target fun _ =>
      (i.react meaning m signal.event signal.payload).2.1 := by
  simp only [receive, hi, hm]

/-- The event finds no machine and does nothing, or its target reacts. -/
theorem receive_cases (meaning : Meaning L) (d : Domain L) (signal : Signal) :
    d.receive meaning signal = d ∨
    ∃ i m, d.instance? signal.target = some i ∧ i.machine = some m ∧
      d.receive meaning signal = d.updateInstance signal.target fun _ =>
        (i.react meaning m signal.event signal.payload).2.1 := by
  cases hi : d.instance? signal.target with
  | none => exact .inl (receive_of_none hi)
  | some i =>
    cases hm : i.machine with
    | none => exact .inl (receive_of_no_machine hi hm)
    | some m => exact .inr ⟨i, m, rfl, hm, receive_of_machine hi hm⟩

end Domain

/-- What a request does itself, before the code that it sets off. -/
def Request.effect (meaning : Meaning L) (d : Domain L) : Request L → Domain L
  | .observe | .call .. => d
  | .mark text => d.note (.mark text)
  | .registerClass definition => d.registerClass definition
  | .registerFunction name routine => d.registerFunction name routine
  | .registerBridge entity handler => d.registerBridge entity handler
  | .create reference attributes => (d.create reference attributes).2
  | .delete id => (d.delete id).2
  | .setAttribute id name value => d.updateInstance id (Instance.setAttribute name value)
  | .relate relationship a b => (d.relate relationship a b).2
  | .relateAll relationship pairs => (d.relateAll relationship pairs).2
  | .unrelate relationship a b => (d.unrelate relationship a b).2
  | .dispatch signal => d.receive meaning signal
  | .forceState id state => (d.forceState id state).2
  | .send target name payload => d.send target name payload
  | .startTimer signal => (d.startTimer signal).2
  | .cancelTimer id => (d.cancelTimer id).2
  | .cancelAllTimers => d.cancelAllTimers.2
  | .expireTimer id =>
    match (d.timers.finish id).1 with
    | none => (d.cancelTimer id).2
    | some signal => (d.cancelTimer id).2.receive meaning signal
  | .freeze instant => { d with now := instant }
  | .bridge entity operation arguments =>
    match d.bridges.lookup (Text.upper entity) with
    | some .log => ((d.logRecord? operation arguments).map d.note).getD d
    | _ => d
  | .report context fault => d.report context fault
  | .reset => d.reset

/-- Executes a procedure as `execute` does, as long as no code makes a request that is not allowed;
if one does, there is no result. -/
def executeWithin (allowed : Request L → Bool) (meaning : Meaning L) : Nat → Executor L
  | 0 => fun _ _ => none
  | depth + 1 => fun procedure d =>
    procedure.run (fun d r =>
      if allowed r then r.perform meaning (executeWithin allowed meaning depth) d else none) d

/-- The relation can be followed along a run: it chains, and reports do not matter. -/
structure Chains (R : Domain L → Domain L → Prop) : Prop where
  refl : ∀ d, R d d
  trans : ∀ {d e f}, R d e → R e f → R d f
  report : ∀ d context fault, R d (d.report context fault)

/-- The relation holds from the start to the end of whatever is executed. -/
def Executor.Keeps (R : Domain L → Domain L → Prop) (execute : Executor L) : Prop :=
  ∀ (α : Type) (procedure : Procedure L α) (d d' : Domain L) (result : Except Fault α),
    execute procedure d = some (result, d') → R d d'

theorem snd_of_some {α β : Type} {x : α × β} {a : α} {b : β} (h : some x = some (a, b)) :
    x.2 = b :=
  congrArg Prod.snd (Option.some.inj h)

section Requests

variable {R : Domain L → Domain L → Prop} (hR : Chains R) {meaning : Meaning L}
  {execute : Executor L} (hexecute : Executor.Keeps R execute) {d d' : Domain L}
include hR hexecute

/-- After the state change of an event, only its action is left. -/
theorem dispatch_keeps {signal : Signal} {result : Except Fault Outcome}
    (h : d.dispatch meaning execute signal = some (result, d')) :
    R (d.receive meaning signal) d' := by
  unfold Domain.dispatch at h
  split at h
  · rename_i hi
    cases h
    rw [Domain.receive_of_none hi]
    exact hR.refl _
  · split at h
    · rename_i hi _ hm
      cases h
      rw [Domain.receive_of_no_machine hi hm]
      exact hR.refl _
    · rename_i i hi _ m hm
      rw [Domain.receive_of_machine hi hm]
      split at h
      rename_i outcome i' action? hr
      rw [hr]
      simp only at h
      split at h
      · cases h
        exact hR.refl _
      · split at h
        · cases h
        · rename_i hrun
          cases h
          exact hexecute _ _ _ _ _ hrun
        · rename_i hrun
          cases h
          exact hR.trans (hexecute _ _ _ _ _ hrun) (hR.report _ _ _)

theorem expireTimer_keeps {id : TimerId} {result : Bool}
    (h : d.expireTimer meaning execute id = some (result, d')) :
    R (Request.effect meaning d (.expireTimer id)) d' := by
  unfold Domain.expireTimer at h
  simp only at h
  split at h
  · rename_i hnone
    cases h
    simp only [Request.effect, hnone]
    exact hR.refl _
  · rename_i signal hsome
    simp only [Request.effect, hsome]
    split at h
    · cases h
    · rename_i hdispatch
      cases h
      exact dispatch_keeps hR hexecute hdispatch
    · rename_i hdispatch
      cases h
      exact hR.trans (dispatch_keeps hR hexecute hdispatch) (hR.report _ _ _)

theorem call_keeps {function : String} {arguments : Payload} {result : Except Fault Json}
    (h : d.call meaning execute function arguments = some (result, d')) : R d d' := by
  unfold Domain.call at h
  split at h
  · cases h
    exact hR.refl _
  · exact hexecute _ _ _ _ _ h

theorem bridge_keeps {entity operation : String} {arguments : Payload}
    {result : Except Fault Json}
    (h : d.bridge meaning execute entity operation arguments = some (result, d')) :
    R (Request.effect meaning d (.bridge entity operation arguments)) d' := by
  unfold Domain.bridge at h
  split at h
  · rename_i hlookup
    cases h
    simp only [Request.effect, hlookup]
    exact hR.refl _
  · rename_i hlookup
    split at h
    all_goals
      rename_i hrecord
      cases h
      simp only [Request.effect, hlookup, hrecord]
      exact hR.refl _
  · rename_i hlookup
    simp only [Request.effect, hlookup]
    split at h
    · cases h
      exact hR.refl _
    · exact hexecute _ _ _ _ _ h

/-- One case for each request: what it does is its own effect, or code follows. -/
theorem perform_keeps {r : Request L} {answer : Except Fault r.Answer}
    (h : r.perform meaning execute d = some (answer, d')) : R (r.effect meaning d) d' := by
  cases r with
  | dispatch signal => exact dispatch_keeps hR hexecute h
  | expireTimer id =>
    obtain ⟨x, hx, hanswer⟩ := Option.bind_eq_some_iff.1 h
    exact snd_of_some hanswer ▸ expireTimer_keeps hR hexecute hx
  | call function arguments => exact call_keeps hR hexecute h
  | bridge entity operation arguments => exact bridge_keeps hR hexecute h
  | observe | mark | registerClass | registerFunction | registerBridge | create | delete
  | setAttribute | relate | relateAll | unrelate | forceState | send | startTimer | cancelTimer
  | cancelAllTimers | freeze | report | reset => exact snd_of_some h ▸ hR.refl _

end Requests

section Within

variable {R : Domain L → Domain L → Prop} (hR : Chains R) {allowed : Request L → Bool}
  {meaning : Meaning L} (heffect : ∀ d r, allowed r = true → R d (r.effect meaning d))
include hR heffect

-- Code may set off code, so the outer induction is on the depth that is left, and the inner one on
-- the requests of the procedure.
theorem executeWithin_keeps (depth : Nat) :
    Executor.Keeps R (executeWithin allowed meaning depth) := by
  induction depth with
  | zero =>
    intro α procedure d d' result h
    cases h
  | succ depth ih =>
    intro α procedure
    induction procedure with
    | done result =>
      intro d d' result h
      exact snd_of_some h ▸ hR.refl _
    | ask r next ihnext =>
      intro d d' result h
      change Procedure.run _ (.ask r next) d = _ at h
      rw [Procedure.run] at h
      split at h
      · cases h
      · rename_i hfirst
        split at hfirst
        · rename_i hallowed
          exact hR.trans (hR.trans (heffect d r hallowed) (perform_keeps hR ih hfirst))
            (ihnext _ _ _ _ h)
        · cases hfirst

end Within

/-- What the first executor has a result for, the second has the same result for. -/
def Executor.Le (first second : Executor L) : Prop :=
  ∀ (α : Type) (procedure : Procedure L α) (d : Domain L) (x : Except Fault α × Domain L),
    first procedure d = some x → second procedure d = some x

section Order

variable {meaning : Meaning L} {first second : Executor L} (hle : Executor.Le first second)
  {d : Domain L}
include hle

theorem dispatch_mono {signal : Signal} {x : Except Fault Outcome × Domain L}
    (h : d.dispatch meaning first signal = some x) : d.dispatch meaning second signal = some x := by
  unfold Domain.dispatch at h ⊢
  split at h
  · exact h
  · split at h
    · exact h
    · split at h
      simp only at h ⊢
      split at h
      · exact h
      · split at h
        · cases h
        all_goals
          rename_i hrun
          have hsecond : second _ _ = some _ := hle _ _ _ _ hrun
          rw [hsecond]
          exact h

theorem expireTimer_mono {id : TimerId} {x : Bool × Domain L}
    (h : d.expireTimer meaning first id = some x) : d.expireTimer meaning second id = some x := by
  unfold Domain.expireTimer at h ⊢
  simp only at h ⊢
  split at h
  · exact h
  · split at h
    · cases h
    all_goals
      rename_i hdispatch
      rw [dispatch_mono hle hdispatch]
      exact h

theorem perform_mono {r : Request L} {x : Except Fault r.Answer × Domain L}
    (h : r.perform meaning first d = some x) : r.perform meaning second d = some x := by
  cases r with
  | dispatch signal => exact dispatch_mono hle h
  | expireTimer id =>
    obtain ⟨y, hy, hanswer⟩ := Option.bind_eq_some_iff.1 h
    exact Option.bind_eq_some_iff.2 ⟨y, expireTimer_mono hle hy, hanswer⟩
  | call function arguments =>
    change d.call meaning first function arguments = some x at h
    change d.call meaning second function arguments = some x
    unfold Domain.call at h ⊢
    split at h
    · exact h
    · exact hle _ _ _ _ h
  | bridge entity operation arguments =>
    change d.bridge meaning first entity operation arguments = some x at h
    change d.bridge meaning second entity operation arguments = some x
    unfold Domain.bridge at h ⊢
    split at h
    · exact h
    · exact h
    · split at h
      · exact h
      · exact hle _ _ _ _ h
  | observe | mark | registerClass | registerFunction | registerBridge | create | delete
  | setAttribute | relate | relateAll | unrelate | forceState | send | startTimer | cancelTimer
  | cancelAllTimers | freeze | report | reset => exact h

end Order

theorem executeWithin_le {allowed : Request L → Bool} {meaning : Meaning L} (depth : Nat) :
    Executor.Le (executeWithin allowed meaning depth) (execute meaning depth) := by
  induction depth with
  | zero =>
    intro α procedure d x h
    cases h
  | succ depth ih =>
    intro α procedure
    change ∀ d x, Procedure.run _ procedure d = some x → Procedure.run _ procedure d = some x
    induction procedure with
    | done result => exact fun d x h => h
    | ask r next ihnext =>
      intro d x h
      rw [Procedure.run] at h ⊢
      split at h
      · cases h
      · rename_i hfirst
        split at hfirst
        · rw [perform_mono ih hfirst]
          exact ihnext _ _ _ h
        · cases hfirst

end ExecutableUml.Execution
