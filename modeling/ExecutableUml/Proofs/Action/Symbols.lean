import ExecutableUml.Action.Body
import ExecutableUml.Proofs.Document.Texts
import ExecutableUml.Proofs.Python.Names
import ExecutableUml.Validation.Actions

/-! The model and the table of symbols look a class up by the same three texts. The table also
knows a class by its name in the code, and that name can be the id, the name or the key letters of
a later class. The two agree on a reference exactly when no class before the one that the model
finds was given the reference as its name in the code. -/

namespace ExecutableUml

open Text ExecutableUml.Action

namespace Model

/-- The place that the model finds for a reference: the class there has the text, and no class
before it does. -/
theorem resolveClass_split {m : Model} {r : String} {i : ClassId} (h : m.resolveClass r = some i) :
    lower (trimmed r) ≠ "" ∧ ∃ c, m.classes[i]? = some c ∧
      m.classes = m.classes.take i ++ c :: m.classes.drop (i + 1) ∧
      c.isNamed (lower (trimmed r)) = true ∧
      ∀ d ∈ m.classes.take i, d.isNamed (lower (trimmed r)) = false := by
  rw [resolveClass, ClassNaming.resolve] at h
  split at h
  · cases h
  rename_i hw
  rw [List.findIdx?_map, List.findIdx?_eq_some_iff_getElem] at h
  obtain ⟨hi, hnamed, hbefore⟩ := h
  refine ⟨by simpa using hw, m.classes[i], List.getElem?_eq_getElem hi, ?_, hnamed, ?_⟩
  · rw [← List.drop_eq_getElem_cons hi, List.take_append_drop]
  · intro d hd
    obtain ⟨j, hj, rfl⟩ := List.mem_iff_getElem.1 hd
    rw [List.length_take] at hj
    rw [List.getElem_take]
    exact Bool.eq_false_iff.2 (hbefore j (by omega))

/-- A class before the place `i` has the reference as its name in the code. -/
def Shadowed (m : Model) (reference : String) (i : ClassId) : Prop :=
  ∃ d ∈ m.classes.take i, lower d.pyName = lower (trimmed reference)

instance (m : Model) (reference : String) (i : ClassId) : Decidable (m.Shadowed reference i) :=
  inferInstanceAs (Decidable (∃ d ∈ m.classes.take i, lower d.pyName = lower (trimmed reference)))

theorem classNames_nodup (doc : Json) :
    ((ofDocument doc).classes.map fun c => lower c.pyName).Nodup := by
  have h := pyNames_nodup doc
  rw [List.map_append, List.map_map] at h
  exact h.of_append_left

end Model

namespace Action.SymbolTable

theorem matches_iff {wanted : String} (hw : wanted ≠ "") (k : String) :
    (!k.isEmpty && lower k == wanted) = true ↔ lower k = wanted := by
  simp only [Bool.and_eq_true, Bool.not_eq_true', String.isEmpty_eq_false_iff, beq_iff_eq]
  refine ⟨And.right, fun h => ⟨?_, h⟩⟩
  rintro rfl
  exact hw (h ▸ lower_eq_empty.2 rfl)

/-- The table finds a class by its id, its name, its key letters and its name in the code. -/
theorem keys_any_iff {wanted : String} (hw : wanted ≠ "") (c : Class) :
    ([c.name, c.keyLetters, c.pyName, c.id].any fun k => !k.isEmpty && lower k == wanted) = true ↔
      c.isNamed wanted = true ∨ lower c.pyName = wanted := by
  simp only [List.any_cons, List.any_nil, Bool.or_false, Bool.or_eq_true, matches_iff hw,
    ClassNaming.isNamed, beq_iff_eq]
  constructor
  · rintro (h | h | h | h) <;> simp [h]
  · rintro (((h | h) | h) | h) <;> simp [h]

/-- The first class that has the text or is named so in the code is the one found; those made for
relationships come behind all classes. -/
theorem resolve_eq_ofClass {m : Model} {r : String} {before after : List Class} {c : Class}
    (hw : lower (trimmed r) ≠ "") (hm : m.classes = before ++ c :: after)
    (hbefore : ∀ d ∈ before,
      d.isNamed (lower (trimmed r)) = false ∧ lower d.pyName ≠ lower (trimmed r))
    (hc : c.isNamed (lower (trimmed r)) = true ∨ lower c.pyName = lower (trimmed r)) :
    (ofModel m).resolve r = some (.ofClass c) := by
  have hfind : m.classes.find? (fun d => [d.name, d.keyLetters, d.pyName, d.id].any fun k =>
      !k.isEmpty && lower k == lower (trimmed r)) = some c := by
    rw [hm, List.find?_append, List.find?_eq_none.2, Option.none_or]
    · exact List.find?_cons_of_pos ((keys_any_iff hw c).2 hc)
    · intro d hd hany
      obtain ⟨hnamed, hne⟩ := hbefore d hd
      rcases (keys_any_iff hw d).1 hany with h | h
      · simp [hnamed] at h
      · exact hne h
  simp only [resolve, ofModel, List.find?_append, List.find?_map, Function.comp_def, hfind,
    Option.map_some, Option.some_or]

/-- Code for the reference is about the class: instances are created and selected under its name in
the code, and navigation looks for them under that name. -/
structure ActsOn (t : SymbolTable) (reference : String) (c : Class) : Prop where
  symbols : t.resolve reference = some (.ofClass c)
  store : ∀ s : Scope, s.symbols = t → s.classLiteral reference = ⟨Scope.quoted c.pyName, []⟩
  links : ∀ s : Scope, s.symbols = t → s.classFilter reference = Scope.quoted c.pyName

theorem actsOn_of_resolve {t : SymbolTable} {reference : String} {c : Class}
    (h : t.resolve reference = some (.ofClass c)) : t.ActsOn reference c where
  symbols := h
  store := by
    rintro s rfl
    rw [Scope.classLiteral, h]
    rfl
  links := by
    rintro s rfl
    rw [Scope.classFilter, h]
    rfl

/-- A class that was given the reference as its name in the code hides a later one that has it as
its id, name or key letters. -/
theorem resolve_eq_of_shadowed {doc : Json} {r : String} {i : ClassId}
    (h : (Model.ofDocument doc).resolveClass r = some i) {d : Class}
    (hd : d ∈ (Model.ofDocument doc).classes.take i) (hname : lower d.pyName = lower (trimmed r)) :
    (ofModel (Model.ofDocument doc)).resolve r = some (.ofClass d) := by
  obtain ⟨hw, c, -, hsplit, -, hbefore⟩ := Model.resolveClass_split h
  obtain ⟨before, after, htake⟩ := List.append_of_mem hd
  rw [htake, List.append_assoc] at hsplit
  refine resolve_eq_ofClass hw hsplit (fun e he => ⟨hbefore e ?_, fun hsame => ?_⟩) (.inr hname)
  · rw [htake]
    exact List.mem_append_left _ he
  · have hnodup := Model.classNames_nodup doc
    rw [hsplit, List.map_append] at hnodup
    exact List.disjoint_of_nodup_append hnodup (List.mem_map_of_mem he)
      (List.mem_map.2 ⟨d, List.mem_append_left _ List.mem_cons_self, hname.trans hsame.symm⟩)

/-- Code for a reference is about the class that the model finds for it exactly when the reference
is not shadowed; a shadowed one means the class that shadows it. -/
theorem actsOn_iff_not_shadowed (doc : Json) (r : String) (i : ClassId)
    (h : (Model.ofDocument doc).resolveClass r = some i) :
    ∃ c, (Model.ofDocument doc).classes[i]? = some c ∧
      ((ofModel (Model.ofDocument doc)).ActsOn r c ↔ ¬ (Model.ofDocument doc).Shadowed r i) ∧
      ∀ d ∈ (Model.ofDocument doc).classes.take i, lower d.pyName = lower (trimmed r) →
        (ofModel (Model.ofDocument doc)).ActsOn r d := by
  obtain ⟨hw, c, hc, hsplit, hnamed, hbefore⟩ := Model.resolveClass_split h
  refine ⟨c, hc, ⟨?_, ?_⟩, fun d hd hname => actsOn_of_resolve (resolve_eq_of_shadowed h hd hname)⟩
  · rintro hacts ⟨d, hd, hname⟩
    have hsame := hacts.symbols.symm.trans (resolve_eq_of_shadowed h hd hname)
    have hpy : c.pyName = d.pyName := congrArg ClassSymbols.pyName (Option.some.inj hsame)
    have hnodup := Model.classNames_nodup doc
    rw [hsplit, List.map_append] at hnodup
    exact List.disjoint_of_nodup_append hnodup (List.mem_map_of_mem hd)
      (List.mem_map.2 ⟨c, List.mem_cons_self, by rw [hpy]⟩)
  · intro hshadow
    exact actsOn_of_resolve (resolve_eq_ofClass hw hsplit
      (fun d hd => ⟨hbefore d hd, fun hname => hshadow ⟨d, hd, hname⟩⟩) (.inl hnamed))

/-- Two tanks whose names differ in a blank and an underscore, and a function that makes one. -/
def tankDocument : Json := .object [
  ("functions", .array [.object [
    ("action", .string "create object instance t of Fuel_Tank"), ("name", .string "fill")]]),
  ("model", .array [
    .object [("KL", .string "FA"), ("class_id", .string "C1"), ("class_name", .string "Fuel Tank")],
    .object [("KL", .string "FB"), ("class_id", .string "C2"),
      ("class_name", .string "Fuel_Tank")]])]

/-- By its key letters the second tank is found. -/
theorem tank_keyLetters_actsOn :
    (Model.ofDocument tankDocument).resolveClass "fb" = some 1 ∧
    ∃ c, (Model.ofDocument tankDocument).classes[1]? = some c ∧
      (ofModel (Model.ofDocument tankDocument)).ActsOn "fb" c := by
  have h : (Model.ofDocument tankDocument).resolveClass "fb" = some 1 := by decide +kernel
  obtain ⟨c, hc, hiff, -⟩ := actsOn_iff_not_shadowed tankDocument "fb" 1 h
  exact ⟨h, c, hc, hiff.2 (by decide +kernel)⟩

/-- By its name the second tank is not found, though nothing is wrong with the document: the first
one is called `Fuel_Tank` in the code. -/
theorem tank_name_shadowed :
    Document.issues tankDocument = [] ∧
    (Model.ofDocument tankDocument).resolveClass "Fuel_Tank" = some 1 ∧
    (ofModel (Model.ofDocument tankDocument)).resolve "Fuel_Tank" =
      ((Model.ofDocument tankDocument).classes[0]?).map .ofClass ∧
    (ofModel (Model.ofDocument tankDocument)).resolve "Fuel_Tank" ≠
      ((Model.ofDocument tankDocument).classes[1]?).map .ofClass := by
  decide +kernel

end Action.SymbolTable

end ExecutableUml
