import ExecutableUml.Validation.Actions

/-! What a document without issues is known to have. The checks run over numbered lists and put
paths into their findings; here both are gone, and what remains are facts about single entries. -/

namespace ExecutableUml

open Text ExecutableUml.Action

theorem exists_mem_zipIdx {α : Type} {l : List α} {a : α} (h : a ∈ l) : ∃ i, (a, i) ∈ l.zipIdx := by
  obtain ⟨i, hi⟩ := List.mem_iff_getElem?.1 h
  exact ⟨i, List.mk_mem_zipIdx_iff_getElem?.2 hi⟩

def Faultless (refs : References) (body : String) : Prop :=
  ∀ l ∈ parseBody body, l.statement.faults refs = []

theorem faults_of_lineFindings {refs : References} {path : String} {blocks : List OpenBlock}
    {ls : List BodyLine} (h : lineFindings refs path blocks ls = []) :
    ∀ l ∈ ls, l.statement.faults refs = [] := by
  induction ls generalizing blocks with
  | nil => simp
  | cons l ls ih =>
    simp only [lineFindings, List.append_eq_nil_iff, List.map_eq_nil_iff] at h
    obtain ⟨⟨hl, -⟩, hls⟩ := h
    intro l' hl'
    rcases List.mem_cons.1 hl' with rfl | hl'
    · exact hl
    · exact ih hls l' hl'

theorem faultless_of_actionFindings {refs : References} {path body : String}
    (h : actionFindings refs path body = []) : Faultless refs body :=
  faults_of_lineFindings h

namespace Document

theorem issues_eq_nil {doc : Json} : issues doc = [] ↔ findings doc = [] := List.map_eq_nil_iff

theorem findings_eq_nil {doc : Json} :
    findings doc = [] ↔
      shapeFindings doc = [] ∧ structureFindings doc = [] ∧
        actionsFindings doc (references doc) = [] := by
  rw [findings]
  split
  · rename_i hs
    rw [List.append_eq_nil_iff]
    exact ⟨fun h => ⟨List.isEmpty_iff.1 hs, h⟩, fun h => h.2⟩
  · rename_i hs
    exact ⟨fun h => absurd (List.isEmpty_iff.2 h) hs, fun h => h.1⟩

theorem check_eq_nil {ok : Bool} {path : String} {fault : Fault} :
    check ok path fault = [] ↔ ok = true := by
  cases ok <;> simp [check, finding]

theorem checkItems_mem {path : String} {items : List Json} {f : String → Json → List Finding}
    (h : checkItems path items f = []) {item : Json} (hi : item ∈ items) :
    ∃ p, f p item = [] := by
  obtain ⟨i, hz⟩ := exists_mem_zipIdx hi
  exact ⟨indexed path i, List.flatMap_eq_nil_iff.1 h (item, i) hz⟩

/-- An entry that repeats no earlier one is the first with its key. -/
theorem findIdx?_of_earlierWith {keys : List (Option String)} {key : String} {i : Nat}
    (hi : keys[i]? = some (some key)) (h : earlierWith keys key i = none) :
    keys.findIdx? (· == some key) = some i := by
  cases hf : keys.findIdx? (· == some key) with
  | none =>
    have hne := List.findIdx?_eq_none_iff.1 hf _ (List.mem_of_getElem? hi)
    simp at hne
  | some k =>
    obtain ⟨_, hget⟩ := List.getElem?_eq_some_iff.1 hi
    obtain ⟨_, -, hbefore⟩ := List.findIdx?_eq_some_iff_getElem.1 hf
    have hik : ¬ i < k := fun hlt => hbefore i hlt (by simp [hget])
    have hki : ¬ k < i := by simpa [earlierWith, hf] using h
    rw [Option.some.injEq]
    omega

/-- Where no entry repeats an earlier one, entries with one text up to case stand at one place. -/
theorem place_eq_of_lower_eq {keys : List String} {l : List Json}
    (h : ∀ (i : Nat) (entry : Json) (value : String), l[i]? = some entry →
      text entry keys = some value → earlierWith (loweredField keys l) (lower value) i = none)
    {i j : Nat} {a b : Json} {x y : String} (hi : l[i]? = some a) (hx : text a keys = some x)
    (hj : l[j]? = some b) (hy : text b keys = some y) (hxy : lower x = lower y) : i = j := by
  have hix : (loweredField keys l)[i]? = some (some (lower x)) := by simp [loweredField, hi, hx]
  have hjy : (loweredField keys l)[j]? = some (some (lower y)) := by simp [loweredField, hj, hy]
  have hfirst := findIdx?_of_earlierWith hix (h i a x hi hx)
  rw [hxy, findIdx?_of_earlierWith hjy (h j b y hj hy), Option.some.injEq] at hfirst
  exact hfirst.symm

/-- Such entries are the same. -/
theorem entry_eq_of_lower_eq {keys : List String} {l : List Json}
    (h : ∀ (i : Nat) (entry : Json) (value : String), l[i]? = some entry →
      text entry keys = some value → earlierWith (loweredField keys l) (lower value) i = none)
    {a b : Json} {x y : String} (ha : a ∈ l) (hx : text a keys = some x) (hb : b ∈ l)
    (hy : text b keys = some y) (hxy : lower x = lower y) : a = b := by
  obtain ⟨i, hi⟩ := List.mem_iff_getElem?.1 ha
  obtain ⟨j, hj⟩ := List.mem_iff_getElem?.1 hb
  rw [← place_eq_of_lower_eq h hi hx hj hy hxy, hi, Option.some.injEq] at hj
  exact hj

/-- Such a text stands in one spelling only. -/
theorem eq_of_lower_eq {keys : List String} {l : List Json}
    (h : ∀ (i : Nat) (entry : Json) (value : String), l[i]? = some entry →
      text entry keys = some value → earlierWith (loweredField keys l) (lower value) i = none)
    {a b : Json} {x y : String} (ha : a ∈ l) (hx : text a keys = some x) (hb : b ∈ l)
    (hy : text b keys = some y) (hxy : lower x = lower y) : x = y := by
  rw [entry_eq_of_lower_eq h ha hx hb hy hxy, hy, Option.some.injEq] at hx
  exact hx.symm

section Structure

variable {doc : Json} (h : structureFindings doc = [])
include h

theorem classFindings_at {entry : Json} {i : Nat} (hi : (classes doc)[i]? = some entry) :
    classFindings doc i entry = [] := by
  simp only [structureFindings, List.append_eq_nil_iff] at h
  obtain ⟨⟨⟨⟨⟨⟨⟨⟨hc, -⟩, -⟩, -⟩, -⟩, -⟩, -⟩, -⟩, -⟩ := h
  exact List.flatMap_eq_nil_iff.1 hc (entry, i) (List.mk_mem_zipIdx_iff_getElem?.2 hi)

theorem classFindings_of_valid {entry : Json} (he : entry ∈ classes doc) :
    ∃ i, classFindings doc i entry = [] := by
  obtain ⟨i, hi⟩ := List.mem_iff_getElem?.1 he
  exact ⟨i, classFindings_at h hi⟩

theorem class_isObject {entry : Json} (he : entry ∈ classes doc) : entry.isObject = true := by
  obtain ⟨i, hf⟩ := classFindings_of_valid h he
  rw [classFindings] at hf
  split at hf
  · assumption
  · simp [finding] at hf

/-- The id of a class may be blank; its name and its key letters may not. -/
theorem class_texts {entry : Json} (he : entry ∈ classes doc) :
    (∃ name, text entry ["class_name"] = some name) ∧ ∃ kl, text entry ["KL"] = some kl := by
  obtain ⟨i, hf⟩ := classFindings_of_valid h he
  rw [classFindings, if_pos (class_isObject h he)] at hf
  simp only [List.append_eq_nil_iff, check_eq_nil] at hf
  obtain ⟨⟨⟨⟨⟨-, hn⟩, hk⟩, -⟩, -⟩, -⟩ := hf
  exact ⟨Option.isSome_iff_exists.1 hn, Option.isSome_iff_exists.1 hk⟩

/-- No class repeats the key letters of an earlier one. -/
theorem keyLetters_of_valid (i : Nat) (entry : Json) (kl : String)
    (hi : (classes doc)[i]? = some entry) (hkl : text entry ["KL"] = some kl) :
    earlierWith (loweredField ["KL"] (classes doc)) (lower kl) i = none := by
  have hf := classFindings_at h hi
  rw [classFindings, if_pos (class_isObject h (List.mem_of_getElem? hi))] at hf
  simp only [List.append_eq_nil_iff, List.flatMap_cons, List.flatMap_nil] at hf
  obtain ⟨⟨⟨-, -, -, hrepeats, -⟩, -⟩, -⟩ := hf
  rw [duplicateFinding, hkl] at hrepeats
  simp only at hrepeats
  split at hrepeats
  · simp [finding] at hrepeats
  · assumption

theorem state_texts {entry row : Json} (he : entry ∈ classes doc)
    (hr : row ∈ items entry "states") :
    row.isObject = true ∧ ∃ name, text row ["state_name"] = some name := by
  obtain ⟨i, hf⟩ := classFindings_of_valid h he
  rw [classFindings, if_pos (class_isObject h he)] at hf
  obtain ⟨path, hstate⟩ := checkItems_mem (List.append_eq_nil_iff.1 hf).2 hr
  rw [stateShape] at hstate
  split at hstate
  · exact ⟨by assumption, Option.isSome_iff_exists.1 (check_eq_nil.1 hstate)⟩
  · simp [finding] at hstate

theorem classEntries_eq : classEntries doc = classes doc :=
  List.filter_eq_self.2 fun _ he => class_isObject h he

theorem relationshipFindings_of_valid {rel : Json} {i : Nat}
    (hr : (items doc "relationships")[i]? = some rel) :
    relationshipFindings doc (Registry.ofDocument doc) i rel = [] := by
  simp only [structureFindings, List.append_eq_nil_iff] at h
  obtain ⟨⟨⟨⟨⟨⟨⟨-, hrel⟩, -⟩, -⟩, -⟩, -⟩, -⟩, -⟩ := h
  exact List.flatMap_eq_nil_iff.1 hrel (rel, i) (List.mk_mem_zipIdx_iff_getElem?.2 hr)

theorem relId_of_valid {rel : Json} {i : Nat} (hr : (items doc "relationships")[i]? = some rel) :
    ∃ relId, text rel relIdKeys = some relId ∧ isRelationshipId relId = true ∧
      earlierWith (loweredField relIdKeys (items doc "relationships")) (lower relId) i = none := by
  have hf := relationshipFindings_of_valid h hr
  rw [relationshipFindings] at hf
  split at hf
  · rw [List.append_eq_nil_iff, List.append_eq_nil_iff, relIdFindings] at hf
    obtain ⟨⟨hid, -⟩, -⟩ := hf
    split at hid
    · simp [finding] at hid
    · rename_i relId htext
      obtain ⟨hform, hearlier⟩ := List.append_eq_nil_iff.1 hid
      refine ⟨relId, htext, check_eq_nil.1 hform, ?_⟩
      split at hearlier
      · simp [finding] at hearlier
      · assumption
  · simp [finding] at hf

theorem generalizationFindings_of_valid {entry : Json} (he : entry ∈ items doc "generalizations") :
    ∃ path, generalizationFindings (Registry.ofDocument doc) path entry = [] := by
  simp only [structureFindings, List.append_eq_nil_iff] at h
  obtain ⟨⟨⟨⟨⟨⟨-, hgen⟩, -⟩, -⟩, -⟩, -⟩, -⟩ := h
  exact checkItems_mem hgen he

theorem inheritanceFindings_of_valid :
    inheritanceFindings doc (inheritances doc (Registry.ofDocument doc)) = [] := by
  simp only [structureFindings, List.append_eq_nil_iff] at h
  obtain ⟨⟨⟨⟨⟨-, hinh⟩, -⟩, -⟩, -⟩, -⟩ := h
  exact hinh

theorem eventFindings_of_valid {event : Json} {i : Nat}
    (he : (items doc "events")[i]? = some event) :
    eventFindings doc (Registry.ofDocument doc) i event = [] := by
  simp only [structureFindings, List.append_eq_nil_iff] at h
  obtain ⟨⟨⟨⟨-, hevent⟩, -⟩, -⟩, -⟩ := h
  exact List.flatMap_eq_nil_iff.1 hevent (event, i) (List.mk_mem_zipIdx_iff_getElem?.2 he)

theorem eventName_of_valid {event : Json} {i : Nat} (he : (items doc "events")[i]? = some event) :
    ∃ name, text event ["event_name"] = some name ∧
      earlierWith (loweredField ["event_name"] (items doc "events")) (lower name) i = none := by
  have hf := eventFindings_of_valid h he
  rw [eventFindings] at hf
  split at hf
  · rw [List.append_eq_nil_iff, List.append_eq_nil_iff] at hf
    obtain ⟨⟨hname, -⟩, -⟩ := hf
    split at hname
    · simp [finding] at hname
    · rename_i name htext
      refine ⟨name, htext, ?_⟩
      split at hname
      · simp [finding] at hname
      · assumption
  · simp [finding] at hf

end Structure

section Actions

variable {doc : Json} {refs : References} (h : actionsFindings doc refs = [])
include h

theorem class_actionFindings {entry : Json} (he : entry ∈ classes doc) :
    ∃ sp op, checkItems sp (items entry "states") (entryActionFindings refs) = [] ∧
      checkItems op (items entry "operations") (entryActionFindings refs) = [] := by
  simp only [actionsFindings, List.append_eq_nil_iff] at h
  obtain ⟨i, hz⟩ := exists_mem_zipIdx he
  have hc := List.flatMap_eq_nil_iff.1 h.1 (entry, i) hz
  exact ⟨_, _, List.append_eq_nil_iff.1 hc⟩

theorem state_faultless {entry state : Json} (he : entry ∈ classes doc)
    (hs : state ∈ items entry "states") : Faultless refs (actionText (state.get? "action")) := by
  obtain ⟨_, _, hc, -⟩ := class_actionFindings h he
  obtain ⟨_, ha⟩ := checkItems_mem hc hs
  exact faultless_of_actionFindings ha

theorem operation_faultless {entry operation : Json} (he : entry ∈ classes doc)
    (ho : operation ∈ items entry "operations") :
    Faultless refs (actionText (operation.get? "action")) := by
  obtain ⟨_, _, -, hc⟩ := class_actionFindings h he
  obtain ⟨_, ha⟩ := checkItems_mem hc ho
  exact faultless_of_actionFindings ha

theorem function_faultless {function : Json} (hf : function ∈ items doc "functions") :
    Faultless refs (actionText (function.get? "action")) := by
  simp only [actionsFindings, List.append_eq_nil_iff] at h
  obtain ⟨_, ha⟩ := checkItems_mem h.2 hf
  exact faultless_of_actionFindings ha

end Actions

end Document

end ExecutableUml
