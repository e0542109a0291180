import ExecutableUml.Proofs.Files.Places
import ExecutableUml.Proofs.Json.Fields
import ExecutableUml.Proofs.Python.WellFormedNames
import ExecutableUml.Python.Project

/-! The paths of the files of a project. The names of classes in the code have no slash, so every
path is plain, no two files of a project have the same one, and every project has an entry point. -/

namespace ExecutableUml

open Text

theorem Python.no_slash_of_mem_distinctNames {names : List String} {name : String}
    (h : name ∈ distinctNames names) : '/' ∉ name.toList := by
  obtain ⟨first, k, -, rfl⟩ := exists_form_of_mem_namesFrom h
  intro hslash
  rcases mem_numbered hslash with hbase | hscore | hnumber
  · exact absurd ((identifier_isIdentifier first).wordChars '/' hbase) (by decide)
  · exact absurd hscore (by decide)
  · exact absurd hnumber (by decide)

theorem Model.pyName_no_slash (doc : Json) :
    (∀ c ∈ (ofDocument doc).classes, '/' ∉ c.pyName.toList) ∧
      ∀ a ∈ (ofDocument doc).associations, '/' ∉ a.pyName.toList := by
  have hnames : ∀ name ∈ (ofDocument doc).codeNames, '/' ∉ name.toList := by
    rw [codeNames_ofDocument]
    exact fun name => Python.no_slash_of_mem_distinctNames
  rw [codeNames, List.forall_mem_append, List.forall_mem_map, List.forall_mem_map] at hnames
  exact hnames

namespace Path

/-- A module of the models has a plain path. -/
theorem isPlain_module {name : String} (h : '/' ∉ name.toList) :
    IsPlain ("models/" ++ name ++ ".py") := by
  have hlast : (name ++ ".py").toList.getLast? = some 'y' := by simp
  have hentry : IsEntry (name ++ ".py") := by
    refine ⟨?_, ?_, ?_, by simpa using h⟩ <;>
    · intro heq
      rw [heq] at hlast
      revert hlast
      decide
  refine ⟨["models", name ++ ".py"], ?_, ?_⟩
  · simpa using ⟨by decide, hentry⟩
  · simp only [joinWith, ← String.append_assoc]
    rfl

end Path

namespace Python.Project

open ExecutableUml.Path

theorem path_of_mem_modules {m : Model} {file : String × Module} (h : file ∈ modules m)
    (hclasses : ∀ c ∈ m.classes, '/' ∉ c.pyName.toList)
    (hassociations : ∀ a ∈ m.associations, '/' ∉ a.pyName.toList) : IsPlain file.1 := by
  have hsupport : ∀ s ∈ supportModules, IsPlain s.1 := by decide +kernel
  have hfixed : ∀ path ∈ ["models/__init__.py", "functions.py", "app.py"], IsPlain path := by
    decide +kernel
  simp only [modules, List.mem_append] at h
  rcases h with ((((h | h) | h) | h) | h) | h
  · obtain ⟨s, hs, rfl⟩ := List.mem_map.1 h
    exact hsupport s hs
  · obtain ⟨i, hi, rfl⟩ := List.mem_mapIdx.1 h
    exact isPlain_module (hclasses _ (List.getElem_mem hi))
  · obtain ⟨a, ha, rfl⟩ := List.mem_map.1 h
    exact isPlain_module (hassociations a ha)
  · cases List.mem_singleton.1 h
    exact hfixed _ (by simp)
  · split at h
    · cases h
    · cases List.mem_singleton.1 h
      exact hfixed _ (by simp)
  · cases List.mem_singleton.1 h
    exact hfixed _ (by simp)

theorem files_ofModel (m : Model) :
    (ofModel m).files = Json.sortFields ((modules m).map fun (path, x) => (path, x.text)) := by
  rw [ofModel]

/-- All files of a project have plain paths. -/
theorem isPlain_of_mem_files {m : Model} (hclasses : ∀ c ∈ m.classes, '/' ∉ c.pyName.toList)
    (hassociations : ∀ a ∈ m.associations, '/' ∉ a.pyName.toList) {file : String × String}
    (h : file ∈ (ofModel m).files) : IsPlain file.1 := by
  rw [files_ofModel] at h
  obtain ⟨made, hmade, rfl⟩ := List.mem_map.1 (Json.mem_of_mem_sortFields h)
  exact path_of_mem_modules hmade hclasses hassociations

/-- No two files of a project have the same path. -/
theorem files_increasing (m : Model) : Json.Increasing (ofModel m).files := by
  rw [files_ofModel]
  exact Json.sortFields_increasing _

theorem exists_entryPoint (m : Model) : ∃ file ∈ (ofModel m).files, file.1 = "app.py" := by
  have happ : ("app.py", (⟨appLines m, []⟩ : Module)) ∈ modules m :=
    List.mem_append_right _ List.mem_cons_self
  rw [files_ofModel]
  exact Json.exists_mem_sortFields (List.mem_map_of_mem happ)

end Python.Project

end ExecutableUml
