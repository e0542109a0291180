import ExecutableUml.Proofs.Python.ActionTexts

/-! The names of events in the code of a project. Rows of transition tables and labels of event
instances keep the spelling of the document, while a generated event is dispatched under its
declared name. The two meet exactly when the document spells the events of its states and of its
event instances as they are declared. -/

namespace ExecutableUml

open Text ExecutableUml.Action

/-- A name that is declared in any case is declared in this spelling. -/
def SpelledAs (declared : List String) (name : String) : Prop :=
  ∀ d ∈ declared, lower d = lower name → d = name

instance (declared : List String) (name : String) : Decidable (SpelledAs declared name) :=
  inferInstanceAs (Decidable (∀ d ∈ declared, lower d = lower name → d = name))

theorem spelledAs_empty (declared : List String) : SpelledAs declared "" :=
  fun _ _ h => lower_eq_empty.1 (h.trans (lower_eq_empty.2 rfl))

namespace Action

structure EventLine where
  before : String
  name : String
  after : String
deriving DecidableEq, Repr

def EventLine.text (l : EventLine) : String := l.before ++ Scope.quoted l.name ++ l.after

def Statement.eventLabel? : Statement → Option String
  | .createEvent _ _ label _ _ => some label
  | _ => none

namespace Scope

def eventLine? (s : Scope) (origins : List (String × String)) : Statement → Option EventLine
  | .createEvent var _ label args target =>
    some ⟨var ++ " = EventInstance(", label,
      ", " ++ (s.expression target).text ++ ", " ++ (s.payload args).text ++ ")"⟩
  | .generate _ event args target =>
    some ⟨"if getattr(" ++ (s.expression target).text ++ ", 'sm', None) is not None: " ++
        (s.expression target).text ++ ".sm.dispatch(",
      s.dispatchName origins event, ", " ++ (s.payload args).text ++ ")"⟩
  | _ => none

theorem statement_eventLine {s : Scope} {origins : List (String × String)} {st : Statement}
    {l : EventLine} (h : l ∈ s.eventLine? origins st) (text : String) :
    (s.statement origins text st).emissions.getLast? = some (.simple l.text) := by
  cases st with
  | createEvent var keyLetters label args target =>
    cases h
    simp only [EventLine.text, ← String.append_assoc]
    rfl
  | generate keyLetters event args target =>
    cases h
    simp only [EventLine.text, ← String.append_assoc]
    exact List.getLast?_concat
  | _ => cases h

/-- An event that is declared in any case is dispatched under its declared name. -/
theorem dispatchName_declared {m : Model} {s : Scope} (hs : s.symbols = .ofModel m) {event : String}
    (h : ∃ d ∈ m.eventNames, lower d = lower (trimmed event)) (origins : List (String × String)) :
    s.dispatchName origins event ∈ m.eventNames ∧
      lower (s.dispatchName origins event) = lower (trimmed event) := by
  obtain ⟨declared, hdeclared, hlower⟩ := h
  have hfound : ((SymbolTable.ofModel m).eventName event).isSome = true :=
    List.find?_isSome.2 ⟨declared, hdeclared, by simpa using hlower⟩
  obtain ⟨d, hd⟩ := Option.isSome_iff_exists.1 hfound
  have hname : s.dispatchName origins event = d := by simp [dispatchName, hs, hd]
  rw [hname]
  exact ⟨List.mem_of_find?_eq_some hd, by simpa using List.find?_some hd⟩

end Scope

end Action

/-- The states that the events of a class leave, as its module has them. -/
def Class.eventOrigins (c : Class) : List (String × String) :=
  if c.isExternal then [] else (c.stateMachine.map StateMachine.eventOrigins).getD []

/-- All code spells events as they are declared, so a generated event is looked up under the name
that its row has. -/
structure Model.EventsSpelled (m : Model) : Prop where
  rows : ∀ c ∈ m.classes, ∀ row ∈ c.tableRows, SpelledAs m.eventNames row.transition.event
  origins : ∀ c ∈ m.classes, ∀ o ∈ c.eventOrigins, SpelledAs m.eventNames o.1
  lines : ∀ st ∈ m.statements, ∀ s : Scope, s.symbols = .ofModel m →
    ∀ (origins : List (String × String)), ∀ l ∈ s.eventLine? origins st,
      SpelledAs m.eventNames l.name
  found : ∀ (keyLetters : Option String) (event : String) (args : List Argument) (target : String),
    .generate keyLetters event args target ∈ m.statements →
    ∀ s : Scope, s.symbols = .ofModel m → ∀ (origins : List (String × String)),
      ∀ c ∈ m.classes, ∀ row ∈ c.tableRows, lower row.transition.event = lower (trimmed event) →
        s.dispatchName origins event = row.transition.event

def Model.LabelsSpelled (m : Model) : Prop :=
  ∀ st ∈ m.statements, ∀ label ∈ st.eventLabel?, SpelledAs m.eventNames label

instance (m : Model) : Decidable m.LabelsSpelled :=
  inferInstanceAs (Decidable (∀ st ∈ m.statements, ∀ label ∈ st.eventLabel?,
    SpelledAs m.eventNames label))

namespace Document

/-- The rows of states name events as they are declared. Those of an external entity are left
out of the code. -/
def StatesSpelled (doc : Json) : Prop :=
  ∀ entry ∈ classes doc, flag entry "is_external" = false → ∀ row ∈ items entry "states",
    ∀ signature ∈ stateEvents row, SpelledAs (Model.ofDocument doc).eventNames (eventName signature)

instance (doc : Json) : Decidable (StatesSpelled doc) :=
  inferInstanceAs (Decidable (∀ entry ∈ classes doc, flag entry "is_external" = false →
    ∀ row ∈ items entry "states", ∀ signature ∈ stateEvents row,
      SpelledAs (Model.ofDocument doc).eventNames (eventName signature)))

theorem transition_of_tableRow {c : Class} {row : Python.TransitionRow} (h : row ∈ c.tableRows) :
    c.isExternal = false ∧ ∃ sm, c.stateMachine = some sm ∧ row.transition ∈ sm.transitions := by
  obtain ⟨hx, sm, hsm, hrow⟩ := Class.mem_tableRows.1 h
  exact ⟨hx, sm, hsm, Python.TransitionRow.transition_mem_ofMachine hrow⟩

theorem transition_of_origin {c : Class} {o : String × String} (h : o ∈ c.eventOrigins) :
    c.isExternal = false ∧
      ∃ sm, c.stateMachine = some sm ∧ ∃ t ∈ sm.transitions, t.event = o.1 := by
  unfold Class.eventOrigins at h
  split at h
  · simp at h
  · rename_i hx
    cases hsm : c.stateMachine with
    | none => simp [hsm] at h
    | some sm =>
      rw [hsm] at h
      obtain ⟨t, ht, rfl⟩ := StateMachine.transition_of_eventOrigin h
      exact ⟨Bool.eq_false_iff.2 hx, sm, rfl, t, ht, rfl⟩

/-- The event of a transition stands in a row of the class. -/
theorem stateEvent_of_transition {doc : Json} {c : Class} (hc : c ∈ (Model.ofDocument doc).classes)
    {sm : StateMachine} (hsm : c.stateMachine = some sm) {t : Transition}
    (ht : t ∈ sm.transitions) :
    ∃ entry ∈ classes doc, flag entry "is_external" = c.isExternal ∧
      ∃ row ∈ items entry "states", ∃ signature ∈ stateEvents row,
        t.event = eventName signature := by
  obtain ⟨i, hi, pyNames, rfl⟩ := Model.exists_entry_of_mem hc
  obtain ⟨row, hrow, ht⟩ := StateMachine.row_of_transition hsm ht
  obtain ⟨_, -, signature, hsignature, -, rfl⟩ := Transition.mem_ofRow.1 ht
  exact ⟨_, classEntries_subset (List.getElem_mem hi), rfl, row, hrow, signature, hsignature, rfl⟩

/-- Every event of a row reaches the transition table of its class. -/
theorem tableRow_of_stateEvent {doc : Json} (h : structureFindings doc = []) {entry row : Json}
    (he : entry ∈ classes doc) (hx : flag entry "is_external" = false)
    (hrow : row ∈ items entry "states") {signature : String}
    (hsignature : signature ∈ stateEvents row) (hname : eventName signature ≠ "") :
    ∃ c ∈ (Model.ofDocument doc).classes, ∃ r ∈ c.tableRows,
      r.transition.event = eventName signature := by
  obtain ⟨hobject, source, hsource⟩ := state_texts h he hrow
  rw [← classEntries_eq h] at he
  obtain ⟨i, hi, rfl⟩ := List.mem_iff_getElem.1 he
  obtain ⟨pyNames, hclasses⟩ := Model.classes_ofDocument doc
  have hmem : ∃ t ∈ Transition.ofRow (Model.ofDocument doc).events i row,
      t.event = eventName signature :=
    ⟨_, Transition.mem_ofRow.2 ⟨source, hsource, signature, hsignature, hname, rfl⟩, rfl⟩
  obtain ⟨t, ht, hevent⟩ := hmem
  obtain ⟨sm, hsm, u, hu, hsame⟩ :=
    StateMachine.transition_of_row (List.mem_filter.2 ⟨hrow, hobject⟩) ht
  simp only [Transition.sameEffect, Bool.and_eq_true, beq_iff_eq] at hsame
  obtain ⟨r, hr, -, hru⟩ := Python.TransitionRow.row_of_transition hu
  refine ⟨_, by rw [hclasses]; exact List.mem_mapIdx.2 ⟨i, hi, rfl⟩, r,
    Class.mem_tableRows.2 ⟨hx, sm, hsm, hr⟩, ?_⟩
  rw [hru, hsame.1.1.2, hevent]

section Spelled

variable {doc : Json} (hstates : StatesSpelled doc) {c : Class}
  (hc : c ∈ (Model.ofDocument doc).classes)
include hstates hc

theorem transition_spelled (hx : c.isExternal = false) {sm : StateMachine}
    (hsm : c.stateMachine = some sm) {t : Transition} (ht : t ∈ sm.transitions) :
    SpelledAs (Model.ofDocument doc).eventNames t.event := by
  obtain ⟨entry, he, hflag, row, hrow, signature, hsignature, hevent⟩ :=
    stateEvent_of_transition hc hsm ht
  rw [hevent]
  exact hstates entry he (hflag.trans hx) row hrow signature hsignature

theorem tableRow_spelled {row : Python.TransitionRow} (hrow : row ∈ c.tableRows) :
    SpelledAs (Model.ofDocument doc).eventNames row.transition.event := by
  obtain ⟨hx, sm, hsm, ht⟩ := transition_of_tableRow hrow
  exact transition_spelled hstates hc hx hsm ht

theorem origin_spelled {o : String × String} (ho : o ∈ c.eventOrigins) :
    SpelledAs (Model.ofDocument doc).eventNames o.1 := by
  obtain ⟨hx, sm, hsm, t, ht, hevent⟩ := transition_of_origin ho
  rw [← hevent]
  exact transition_spelled hstates hc hx hsm ht

end Spelled

section Valid

variable {doc : Json} (h : findings doc = [])
include h

theorem dispatchName_of_generate {keyLetters : Option String} {event : String}
    {args : List Argument} {target : String}
    (hst : .generate keyLetters event args target ∈ (Model.ofDocument doc).statements) {s : Scope}
    (hs : s.symbols = .ofModel (Model.ofDocument doc)) (origins : List (String × String)) :
    s.dispatchName origins event ∈ (Model.ofDocument doc).eventNames ∧
      lower (s.dispatchName origins event) = lower (trimmed event) := by
  have hfaults := (List.append_eq_nil_iff.1 (statement_faultless h hst)).1
  have hknown : (references doc).hasEvent event = true := by simpa using hfaults
  exact s.dispatchName_declared hs (eventName_of_hasEvent hknown) origins

theorem eventLine_spelled (hlabels : (Model.ofDocument doc).LabelsSpelled) {st : Statement}
    (hst : st ∈ (Model.ofDocument doc).statements) {s : Scope}
    (hs : s.symbols = .ofModel (Model.ofDocument doc)) {origins : List (String × String)}
    {l : EventLine} (hl : l ∈ s.eventLine? origins st) :
    SpelledAs (Model.ofDocument doc).eventNames l.name := by
  cases st with
  | createEvent var keyLetters label args target =>
    cases hl
    exact hlabels _ hst label rfl
  | generate keyLetters event args target =>
    cases hl
    obtain ⟨hdeclared, -⟩ := dispatchName_of_generate h hst hs origins
    exact fun _ hd hlower => eventNames_unique h hd hdeclared hlower
  | _ => cases hl

theorem statesSpelled_of_rows
    (hrows : ∀ c ∈ (Model.ofDocument doc).classes, ∀ row ∈ c.tableRows,
      SpelledAs (Model.ofDocument doc).eventNames row.transition.event) : StatesSpelled doc := by
  intro entry he hx row hrow signature hsignature
  by_cases hname : eventName signature = ""
  · rw [hname]
    exact spelledAs_empty _
  · obtain ⟨c, hc, r, hr, hevent⟩ :=
      tableRow_of_stateEvent (findings_eq_nil.1 h).2.1 he hx hrow hsignature hname
    rw [← hevent]
    exact hrows c hc r hr

end Valid

theorem labelsSpelled_of_lines {m : Model}
    (hlines : ∀ st ∈ m.statements, ∀ s : Scope, s.symbols = .ofModel m →
      ∀ (origins : List (String × String)), ∀ l ∈ s.eventLine? origins st,
        SpelledAs m.eventNames l.name) : m.LabelsSpelled := by
  intro st hst label hlabel
  cases st with
  | createEvent var keyLetters label args target =>
    cases hlabel
    have hline : ∃ l ∈ (Scope.ofOwner (.ofModel m) none "").eventLine? []
        (.createEvent var keyLetters label args target), l.name = label := ⟨_, rfl, rfl⟩
    obtain ⟨l, hl, hname⟩ := hline
    rw [← hname]
    exact hlines _ hst _ rfl [] l hl
  | _ => cases hlabel

/-- A generated event is always dispatched under its declared name. So all code spells events as
they are declared exactly when the rows of states and the labels of event instances do. -/
theorem eventsSpelled_iff (doc : Json) (h : issues doc = []) :
    (∀ st ∈ (Model.ofDocument doc).statements, ∀ (s : Scope) (origins : List (String × String)),
      ∀ l ∈ s.eventLine? origins st, ∀ text : String,
        (s.statement origins text st).emissions.getLast? = some (.simple l.text)) ∧
    (∀ (keyLetters : Option String) (event : String) (args : List Argument) (target : String),
      .generate keyLetters event args target ∈ (Model.ofDocument doc).statements →
      ∀ s : Scope, s.symbols = .ofModel (Model.ofDocument doc) →
      ∀ (origins : List (String × String)),
        s.dispatchName origins event ∈ (Model.ofDocument doc).eventNames ∧
          lower (s.dispatchName origins event) = lower (trimmed event)) ∧
    ((Model.ofDocument doc).EventsSpelled ↔
      StatesSpelled doc ∧ (Model.ofDocument doc).LabelsSpelled) := by
  have hf := issues_eq_nil.1 h
  refine ⟨fun st _ s origins l hl text => Scope.statement_eventLine hl text,
    fun _ _ _ _ hst s hs origins => dispatchName_of_generate hf hst hs origins, ?_, ?_⟩
  · exact fun hspelled =>
      ⟨statesSpelled_of_rows hf hspelled.rows, labelsSpelled_of_lines hspelled.lines⟩
  · rintro ⟨hstates, hlabels⟩
    refine ⟨fun c hc row hrow => tableRow_spelled hstates hc hrow,
      fun c hc o ho => origin_spelled hstates hc ho,
      fun st hst s hs origins l hl => eventLine_spelled hf hlabels hst hs hl, ?_⟩
    intro keyLetters event args target hst s hs origins c hc row hrow hlower
    obtain ⟨hdeclared, hname⟩ := dispatchName_of_generate hf hst hs origins
    exact tableRow_spelled hstates hc hrow _ hdeclared (hname.trans hlower.symm)

def coinDocument (stateEvent : String) : Json := .object [
  ("events", .array [.object [("class_id", .string "C1"), ("event_name", .string "Coin")]]),
  ("model", .array [.object [("KL", .string "VM"), ("class_id", .string "C1"),
    ("class_name", .string "Machine"),
    ("operations", .array [.object [
      ("action",
        .string "create event instance e of VM:Coin() to self\ngenerate VM:coin() to self"),
      ("signature", .string "insert()")]]),
    ("states", .array [
      .object [("next_state", .string "Ready"), ("state_event", .string stateEvent),
        ("state_name", .string "Idle")],
      .object [("state_name", .string "Ready")]])]])]

theorem coin_events_spelled :
    issues (coinDocument "Coin") = [] ∧ (Model.ofDocument (coinDocument "Coin")).EventsSpelled := by
  have h : issues (coinDocument "Coin") = [] := by decide +kernel
  have hspelled : StatesSpelled (coinDocument "Coin") ∧
      (Model.ofDocument (coinDocument "Coin")).LabelsSpelled := by decide +kernel
  exact ⟨h, (eventsSpelled_iff _ h).2.2.2 hspelled⟩

/-- A row in another case is accepted, and the event that the machine generates is not found in its
table. -/
theorem coin_row_missed :
    issues (coinDocument "coin") = [] ∧
    (Model.ofDocument (coinDocument "coin")).eventNames = ["Coin"] ∧
    (Model.ofDocument (coinDocument "coin")).statements =
      [.createEvent "e" (some "VM") "Coin" [] "self", .generate (some "VM") "coin" [] "self"] ∧
    (Model.ofDocument (coinDocument "coin")).classes.map (fun c =>
      c.tableRows.map fun row => row.transition.event) = [["coin"]] ∧
    (∀ (s : Scope) (origins : List (String × String)),
      s.symbols = .ofModel (Model.ofDocument (coinDocument "coin")) →
        s.dispatchName origins "coin" = "Coin") ∧
    ¬ (Model.ofDocument (coinDocument "coin")).EventsSpelled := by
  have hnames : (Model.ofDocument (coinDocument "coin")).eventNames = ["Coin"] := by decide +kernel
  have hrows : (Model.ofDocument (coinDocument "coin")).classes.map (fun c =>
      c.tableRows.map fun row => row.transition.event) = [["coin"]] := by decide +kernel
  have hfound : (SymbolTable.ofModel (Model.ofDocument (coinDocument "coin"))).eventName "coin" =
      some "Coin" := by decide +kernel
  refine ⟨by decide +kernel, hnames, by decide +kernel, hrows, ?_, fun hspelled => ?_⟩
  · intro s origins hs
    simp [Scope.dispatchName, hs, hfound]
  · obtain ⟨c, hc, hevents⟩ := List.mem_map.1 (hrows ▸ List.mem_singleton.2 rfl)
    obtain ⟨row, hrow, hevent⟩ := List.mem_map.1 (hevents ▸ List.mem_singleton.2 rfl)
    have hsame := hspelled.rows c hc row hrow "Coin" (by simp [hnames])
    rw [hevent] at hsame
    exact absurd (hsame (by decide +kernel)) (by decide)

end Document

end ExecutableUml
