import ExecutableUml.Proofs.Python.ActionTexts
import ExecutableUml.Proofs.Text.Trim

/-! The keys of the link table that action code reads and writes. A statement that crosses
relationships is compiled to calls on the table, and their keys are its relationship ids as the
action text has them, although an id is accepted in any case. So the keys are the declared ids
exactly when the action texts spell them so. -/

namespace ExecutableUml

open Text ExecutableUml.Action

namespace Action

inductive LinkCall where
  /-- From one end to the other, or from one end to instances of a class. -/
  | across (operation relId first second : String)
  | relateAll (relId : String) (pairs : List (String × String))
  /-- Step by step, each over a relationship to a class. -/
  | navigate (source : String) (steps : List (String × String))
deriving DecidableEq, Repr

namespace LinkCall

def code : LinkCall → String
  | .across operation relId first second => Scope.linkCall operation relId first second
  | .relateAll relId pairs =>
    "rt.links.relate_all(" ++ Scope.quoted relId ++ ", [" ++
      joinWith ", " (pairs.map fun p => "(" ++ p.1 ++ ", " ++ p.2 ++ ")") ++ "])"
  | .navigate source steps =>
    "rt.links.navigate(" ++ source ++ ", [" ++
      joinWith ", " (steps.map fun p => "(" ++ Scope.quoted p.1 ++ ", " ++ p.2 ++ ")") ++ "])"

def keys : LinkCall → List String
  | .across _ relId _ _ => [relId]
  | .relateAll relId _ => [relId]
  | .navigate _ steps => steps.map Prod.fst

end LinkCall

structure LinkLine where
  before : String
  call : LinkCall
  after : String
deriving DecidableEq, Repr

def LinkLine.text (l : LinkLine) : String := l.before ++ l.call.code ++ l.after

theorem LinkLine.text_alone (call : LinkCall) : LinkLine.text ⟨"", call, ""⟩ = call.code := by
  simp [text]

def Emission.codeLine? : Emission → Option String
  | .simple text => some text
  | _ => none

def Statement.isLinking : Statement → Bool
  | .selectRelated _ _ _ _ _ => true
  | .relate _ _ _ _ => true
  | .unrelate _ _ _ _ => true
  | .unrelateNavigated _ _ _ _ => true
  | _ => false

namespace Scope

def navigationCall (s : Scope) (source : String) : List Hop → LinkCall
  | [h] => .across "select_related" h.relId source (s.classFilter h.className)
  | hops => .navigate source (hops.map fun h => (h.relId, s.classFilter h.className))

def selectionLine (s : Scope) (k : Cardinality) (var : String) (call : LinkCall)
    (classRef : Option String) : Option String → LinkLine
  | some c =>
    let c := s.condition var classRef c
    if k = .many then ⟨var ++ " = [candidate for candidate in ", call, " if " ++ c.text ++ "]"⟩
    else ⟨var ++ " = next((candidate for candidate in ", call, " if " ++ c.text ++ "), None)"⟩
  | none =>
    if k = .many then ⟨var ++ " = list(", call, ")"⟩
    else ⟨var ++ " = next(iter(", call, "), None)"⟩

def linkLines (s : Scope) : Statement → List LinkLine
  | .selectRelated k var source hops cond =>
    [s.selectionLine k var (s.navigationCall (s.var source) hops)
      (hops.getLast?.map Hop.className) cond]
  | .relate a b relId none => [⟨"", .across "relate" relId (s.var a) (s.var b), ""⟩]
  | .relate a b relId (some link) =>
    [⟨"", .relateAll relId [(s.var a, s.var link), (s.var link, s.var b)], ""⟩]
  | .unrelate a b relId none => [⟨"", .across "unrelate" relId (s.var a) (s.var b), ""⟩]
  | .unrelate a b relId (some link) =>
    [⟨"", .across "unrelate" relId (s.var a) (s.var link), ""⟩,
     ⟨"", .across "unrelate" relId (s.var link) (s.var b), ""⟩]
  | .unrelateNavigated a source hop relId =>
    [⟨"_linked = ", .across "select_one_related" hop.relId (s.var source)
        (s.classFilter hop.className), ""⟩,
     ⟨"if _linked is not None: ", .across "unrelate" relId (s.var a) "_linked", ""⟩]
  | _ => []

def linkKeys (s : Scope) (st : Statement) : List String :=
  (s.linkLines st).flatMap fun l => l.call.keys

theorem navigationCall_code (s : Scope) (source : String) (hops : List Hop) :
    (s.navigationCall source hops).code = s.navigation source hops := by
  match hops with
  | [] => rfl
  | [h] =>
    have hstart : "rt.links." ++ "select_related" ++ "(" = "rt.links.select_related(" := by decide
    exact congrArg (fun start : String => start ++ quoted h.relId ++ ", " ++ source ++ ", " ++
      s.classFilter h.className ++ ")") hstart
  | h :: next :: rest =>
    exact congrArg
      (fun steps => "rt.links.navigate(" ++ source ++ ", [" ++ joinWith ", " steps ++ "])")
      List.map_map

theorem navigationCall_keys (s : Scope) (source : String) (hops : List Hop) :
    (s.navigationCall source hops).keys = hops.map Hop.relId := by
  match hops with
  | [] => rfl
  | [h] => rfl
  | h :: next :: rest => simp [navigationCall, LinkCall.keys]

theorem selectionLine_call (s : Scope) (k : Cardinality) (var : String) (call : LinkCall)
    (classRef cond : Option String) : (s.selectionLine k var call classRef cond).call = call := by
  by_cases hk : k = .many
  · cases cond <;> simp only [selectionLine, hk, if_true]
  · cases cond <;> simp only [selectionLine, hk, if_false]

theorem selectionLine_text (s : Scope) (k : Cardinality) (var : String) (call : LinkCall)
    (classRef cond : Option String) :
    (s.selectionLine k var call classRef cond).text =
      (s.selection k var call.code ("next(iter(" ++ call.code ++ "), None)") classRef
        cond).text := by
  by_cases hk : k = .many
  · cases cond <;>
      simp only [selectionLine, selection, hk, if_true, LinkLine.text, String.append_assoc]
  · cases cond with
    | some c =>
      simp only [selectionLine, selection, hk, if_false, LinkLine.text, String.append_assoc]
    | none =>
      have hstart : (" = next(iter(" : String) = " = " ++ "next(iter(" := by decide
      simp only [selectionLine, selection, hk, if_false, LinkLine.text, hstart, String.append_assoc]

theorem relateAll_code (relId a link b : String) :
    (LinkCall.relateAll relId [(a, link), (link, b)]).code =
      "rt.links.relate_all(" ++ quoted relId ++ ", [(" ++ a ++ ", " ++ link ++ "), (" ++ link ++
        ", " ++ b ++ ")])" := by
  calc (LinkCall.relateAll relId [(a, link), (link, b)]).code
    _ = "rt.links.relate_all(" ++ quoted relId ++ ", [" ++ ("(" ++ a ++ ", " ++ link ++ ")" ++
          ", " ++ ("(" ++ link ++ ", " ++ b ++ ")")) ++ "])" := rfl
    _ = "rt.links.relate_all(" ++ quoted relId ++ (", [" ++ "(") ++ a ++ ", " ++ link ++
          (")" ++ ", " ++ "(") ++ link ++ ", " ++ b ++ (")" ++ "])") := by
      simp only [String.append_assoc]
    _ = _ := by simp only [String.reduceAppend]

/-- Every line of code of a linking statement makes one of its calls. -/
theorem statement_linkLines (s : Scope) (origins : List (String × String)) (text : String)
    {st : Statement} (h : st.isLinking = true) :
    (s.statement origins text st).emissions.filterMap Emission.codeLine? =
      (s.linkLines st).map LinkLine.text := by
  cases st with
  | selectRelated k var source hops cond =>
    rw [linkLines, List.map_cons, selectionLine_text, navigationCall_code]
    rfl
  | relate a b relId link =>
    cases link with
    | none =>
      rw [linkLines, List.map_cons, LinkLine.text_alone]
      rfl
    | some link =>
      rw [linkLines, List.map_cons, LinkLine.text_alone, relateAll_code]
      rfl
  | unrelate a b relId link =>
    cases link with
    | none =>
      rw [linkLines, List.map_cons, LinkLine.text_alone]
      rfl
    | some link =>
      rw [linkLines, List.map_cons, List.map_cons, LinkLine.text_alone, LinkLine.text_alone]
      rfl
  | unrelateNavigated a source hop relId =>
    simp only [linkLines, List.map_cons, List.map_nil, LinkLine.text, String.append_empty]
    rfl
  | _ => cases h

/-- The keys in the code of a statement are the relationship ids of the statement. -/
theorem mem_linkKeys (s : Scope) (st : Statement) (key : String) :
    key ∈ s.linkKeys st ↔ key ∈ st.relationshipIds := by
  cases st with
  | selectRelated k var source hops cond =>
    simp [linkKeys, linkLines, selectionLine_call, navigationCall_keys, Statement.relationshipIds]
  | relate a b relId link =>
    cases link <;> simp [linkKeys, linkLines, LinkCall.keys, Statement.relationshipIds]
  | unrelate a b relId link =>
    cases link <;> simp [linkKeys, linkLines, LinkCall.keys, Statement.relationshipIds]
  | unrelateNavigated a source hop relId =>
    simp [linkKeys, linkLines, LinkCall.keys, Statement.relationshipIds]
  | _ => simp [linkKeys, linkLines, Statement.relationshipIds]

end Scope

end Action

/-- A relationship has one entry in the table of links, whatever statement reads or writes it: that
of its declared id. -/
structure Model.LinksCanonical (m : Model) : Prop where
  declared : ∀ st ∈ m.statements, ∀ s : Scope, ∀ key ∈ s.linkKeys st, key ∈ m.relIds
  shared : ∀ st ∈ m.statements, ∀ s : Scope, ∀ key ∈ s.linkKeys st,
    ∀ st' ∈ m.statements, ∀ s' : Scope, ∀ key' ∈ s'.linkKeys st',
      ∀ d ∈ m.relIds, lower d = lower (trimmed key) → lower d = lower (trimmed key') → key = key'

namespace Document

theorem trimmed_of_isRelationshipId {d : String} (h : isRelationshipId d = true) :
    trimmed d = d := by
  apply trimmed_eq_self
  unfold isRelationshipId at h
  split at h
  · rename_i c digits hd
    simp only [Bool.and_eq_true, Bool.or_eq_true, beq_iff_eq, List.all_eq_true] at h
    obtain ⟨⟨hc, -⟩, hdigits⟩ := h
    rw [hd]
    intro x hx
    rcases List.mem_cons.1 hx with rfl | hx
    · rcases hc with rfl | rfl <;> decide
    · exact of_isDigit (P := fun c => isBlank c = false) (by decide) (hdigits x hx)
  · cases h

section Valid

variable {doc : Json} (h : findings doc = [])
include h

/-- The relationship that a key of action code means. -/
theorem relId_of_linkKey {st : Statement} (hst : st ∈ (Model.ofDocument doc).statements) {s : Scope}
    {key : String} (hkey : key ∈ s.linkKeys st) :
    ∃ d ∈ (Model.ofDocument doc).relIds, lower d = lower (trimmed key) := by
  have hfaults := (List.append_eq_nil_iff.1 (statement_faultless h hst)).2
  rw [List.map_eq_nil_iff, List.filter_eq_nil_iff] at hfaults
  have hknown := hfaults key ((s.mem_linkKeys st key).1 hkey)
  exact relId_of_hasRelationship (by simpa using hknown)

theorem eq_of_linkKey_declared {d key : String} (hd : d ∈ (Model.ofDocument doc).relIds)
    (hkey : key ∈ (Model.ofDocument doc).relIds) (hlower : lower d = lower (trimmed key)) :
    d = key := by
  rw [trimmed_of_isRelationshipId (relId_of_mem h hkey).1] at hlower
  exact relIds_unique h hd hkey hlower

end Valid

/-- The calls in the code of a statement use its relationship ids as they stand, and each means a
declared one. So all code meets in the entries of the declared ids exactly when the action texts
spell every id as it is declared. -/
theorem linksCanonical_iff_spelled (doc : Json) (h : issues doc = []) :
    (∀ st ∈ (Model.ofDocument doc).statements, st.isLinking = true →
      ∀ (s : Scope) (origins : List (String × String)) (text : String),
        (s.statement origins text st).emissions.filterMap Emission.codeLine? =
          (s.linkLines st).map LinkLine.text) ∧
    (∀ st ∈ (Model.ofDocument doc).statements, ∀ s : Scope, ∀ key ∈ s.linkKeys st,
      ∃ d ∈ (Model.ofDocument doc).relIds, lower d = lower (trimmed key)) ∧
    ((Model.ofDocument doc).LinksCanonical ↔
      ∀ st ∈ (Model.ofDocument doc).statements, ∀ id ∈ st.relationshipIds,
        id ∈ (Model.ofDocument doc).relIds) := by
  have hf := issues_eq_nil.1 h
  refine ⟨fun st _ hlink s origins text => s.statement_linkLines origins text hlink,
    fun st hst s key hkey => relId_of_linkKey hf hst hkey, ?_, ?_⟩
  · intro hcanonical st hst id hid
    have hkey := (Scope.mem_linkKeys (.ofOwner .empty none "") st id).2 hid
    exact hcanonical.declared st hst _ id hkey
  · intro hspelled
    have hdeclared : ∀ st ∈ (Model.ofDocument doc).statements, ∀ s : Scope, ∀ key ∈ s.linkKeys st,
        key ∈ (Model.ofDocument doc).relIds := fun st hst s key hkey =>
      hspelled st hst key ((s.mem_linkKeys st key).1 hkey)
    refine ⟨hdeclared, ?_⟩
    intro st hst s key hkey st' hst' s' key' hkey' d hd hlower hlower'
    have hdkey := eq_of_linkKey_declared hf hd (hdeclared st hst s key hkey) hlower
    have hdkey' := eq_of_linkKey_declared hf hd (hdeclared st' hst' s' key' hkey') hlower'
    exact hdkey.symm.trans hdkey'

def stallDocument (relId : String) : Json := .object [
  ("functions", .array [
    .object [("action", .string ("relate a to b across " ++ relId)), ("name", .string "join")],
    .object [("action", .string "select many cs related by a->CR[R1]"),
      ("name", .string "tour")]]),
  ("model", .array [
    .object [("KL", .string "ST"), ("class_id", .string "C1"), ("class_name", .string "Stall")],
    .object [("KL", .string "CR"), ("class_id", .string "C2"), ("class_name", .string "Crate")]]),
  ("relationships", .array [.object [("from_class", .string "ST"), ("rel_id", .string "R1"),
    ("to_class", .string "CR")]])]

theorem stall_links_canonical :
    issues (stallDocument "R1") = [] ∧ (Model.ofDocument (stallDocument "R1")).LinksCanonical := by
  have h : issues (stallDocument "R1") = [] := by decide +kernel
  exact ⟨h, (linksCanonical_iff_spelled _ h).2.2.2 (by decide +kernel)⟩

/-- An id in another case is accepted, and the crates that one function relates are not found by
the other. -/
theorem stall_links_split :
    issues (stallDocument "r1") = [] ∧ (Model.ofDocument (stallDocument "r1")).relIds = ["R1"] ∧
    (Model.ofDocument (stallDocument "r1")).statements =
      [.relate "a" "b" "r1" none, .selectRelated .many "cs" "a" [⟨"CR", "R1"⟩] none] ∧
    (∀ s : Scope, s.linkKeys (.relate "a" "b" "r1" none) = ["r1"] ∧
      s.linkKeys (.selectRelated .many "cs" "a" [⟨"CR", "R1"⟩] none) = ["R1"]) ∧
    ¬ (Model.ofDocument (stallDocument "r1")).LinksCanonical := by
  have hids : (Model.ofDocument (stallDocument "r1")).relIds = ["R1"] := by decide +kernel
  have hstatements : (Model.ofDocument (stallDocument "r1")).statements =
      [.relate "a" "b" "r1" none, .selectRelated .many "cs" "a" [⟨"CR", "R1"⟩] none] := by
    decide +kernel
  refine ⟨by decide +kernel, hids, hstatements, fun s => ⟨rfl, rfl⟩, fun hcanonical => ?_⟩
  have hdeclared := hcanonical.declared (.relate "a" "b" "r1" none) (by simp [hstatements])
    (.ofOwner .empty none "") "r1" (by simp [Scope.linkKeys, Scope.linkLines, LinkCall.keys])
  rw [hids] at hdeclared
  exact absurd hdeclared (by decide)

end Document

end ExecutableUml
