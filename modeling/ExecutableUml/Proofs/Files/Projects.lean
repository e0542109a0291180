import ExecutableUml.Proofs.Files.Writing
import ExecutableUml.Proofs.Python.FilePaths
import Mathlib.Data.List.Pairwise

/-! The projects of a directory of documents. Each goes to a directory that has the name of its
document, wherever below the input the document is. So the projects share no place exactly when no
two documents have the same name. Where they do share places, the project written last replaces the
files of the others there. -/

namespace ExecutableUml

open Text FileTree ExecutableUml.Path

namespace Path

theorem splitName_no_slash {name : String} (hne : name ≠ "") (h : '/' ∉ name.toList) :
    (splitName name).1 ≠ "" ∧ '/' ∉ (splitName name).1.toList := by
  rw [splitName]
  split
  · rename_i stem ending hcut
    split
    · exact ⟨hne, h⟩
    · rename_i hstem
      rw [cutAtLastChar_eq_some hcut, List.mem_append, not_or] at h
      exact ⟨by simpa using hstem, by simpa using h.1⟩
  · exact ⟨hne, h⟩

theorem fileStem_no_slash {path stem : String} (h : fileStem path = some stem) :
    stem ≠ "" ∧ '/' ∉ stem.toList := by
  obtain ⟨name, hname, rfl⟩ := Option.map_eq_some_iff.1 h
  have hlast := (Option.filter_eq_some_iff.1 hname).1
  obtain ⟨hne, -, hslash⟩ := not_mem_of_mem_names (List.mem_of_getLast? hlast)
  exact splitName_no_slash hne hslash

end Path

def Source.stem (s : Source) : String := (fileStem s.path).getD "model"

theorem Source.isEntry_stem {s : Source} (hdot : s.stem ≠ ".") (hdots : s.stem ≠ "..") :
    IsEntry s.stem := by
  have hstem : s.stem ≠ "" ∧ '/' ∉ s.stem.toList := by
    rw [stem]
    cases h : fileStem s.path with
    | none => decide
    | some name => exact fileStem_no_slash h
  exact ⟨hstem.1, hdot, hdots, hstem.2⟩

theorem compileDocument_eq_ok {o : Options} {doc : Json} {project : Python.Project}
    (h : compileDocument o doc = .ok project) :
    project = Python.Project.ofModel (o.model doc) := by
  obtain ⟨-, -, h⟩ := ok_of_bind h
  dsimp only at h
  split at h
  · cases h
  · cases h
    rfl

namespace Job

variable {j : Job} {t : FileTree}

/-- The documents below a directory, each with a directory of its name below the job's own. -/
theorem sources_of_dir {ss : List Source} (hdir : t.leadsToDir j.input = true)
    (h : j.sources t = .ok ss) :
    t.discover j.input = .ok (ss.map Source.path) ∧ ∀ s ∈ ss, s.outDir = join j.outDir s.stem := by
  rw [sources, if_pos hdir] at h
  obtain ⟨found, hfound, h⟩ := ok_of_bind h
  cases h
  refine ⟨?_, fun s hs => ?_⟩
  · rw [hfound, List.map_map]
    exact congrArg Except.ok (List.map_id found).symm
  · obtain ⟨path, -, rfl⟩ := List.mem_map.1 hs
    rfl

theorem compileSource_eq_ok {s : Source} {m : CompiledModel} (h : j.compileSource t s = .ok m) :
    m.source = s ∧ ∃ doc, m.project = Python.Project.ofModel (j.options.model doc) := by
  obtain ⟨doc, -, h⟩ := ok_of_bind h
  obtain ⟨project, hproject, h⟩ := ok_of_bind h
  cases h
  exact ⟨rfl, doc, compileDocument_eq_ok hproject⟩

theorem compileSources_eq_ok {ss : List Source} {ms : List CompiledModel}
    (h : ss.mapM (j.compileSource t) = .ok ms) :
    ms.map CompiledModel.source = ss ∧
      ∀ m ∈ ms, ∃ doc, m.project = Python.Project.ofModel (j.options.model doc) := by
  induction ss generalizing ms with
  | nil =>
    cases h
    simp
  | cons s ss ih =>
    rw [List.mapM_cons] at h
    obtain ⟨m, hm, h⟩ := ok_of_bind h
    obtain ⟨rest, hrest, h⟩ := ok_of_bind h
    cases h
    obtain ⟨hsource, hproject⟩ := compileSource_eq_ok hm
    obtain ⟨hsources, hprojects⟩ := ih hrest
    rw [List.map_cons, hsource, hsources]
    exact ⟨rfl, List.forall_mem_cons.2 ⟨hproject, hprojects⟩⟩

/-- There is a project for each document, in order. -/
theorem build_eq_ok {ms : List CompiledModel} (h : j.build t = .ok ms) :
    j.sources t = .ok (ms.map CompiledModel.source) ∧
      ∀ m ∈ ms, ∃ doc, m.project = Python.Project.ofModel (j.options.model doc) := by
  obtain ⟨ss, hss, h⟩ := ok_of_bind h
  obtain ⟨hsources, hprojects⟩ := compileSources_eq_ok h
  rw [hss, hsources]
  exact ⟨rfl, hprojects⟩

theorem compile_eq_ok {t' : FileTree} {summary : Summary} (h : j.compile t = (t', .ok summary)) :
    ∃ ms, j.build t = .ok ms ∧ Wrote t (ms.flatMap CompiledModel.writes) t' := by
  rw [compile] at h
  split at h
  · rename_i ms hms
    rw [writeAll] at h
    split at h
    · rename_i final hfinal
      cases h
      exact ⟨ms, hms, writeProjects_wrote hfinal⟩
    · cases h
  · cases h

end Job

namespace CompiledModel

def KeptIn (t : FileTree) (m : CompiledModel) : Prop := ∀ w ∈ m.writes, t.readFile w.1 = .ok w.2

/-- Where the two projects have files at one place, these have the same text. -/
def AgreesWith (t : FileTree) (m m' : CompiledModel) : Prop :=
  ∀ w ∈ m.writes, ∀ w' ∈ m'.writes, t.destination w.1 = t.destination w'.1 → w.2 = w'.2

/-- The two projects have no files at one place. -/
def ApartFrom (t : FileTree) (m m' : CompiledModel) : Prop :=
  ∀ w ∈ m.writes, ∀ w' ∈ m'.writes, t.destination w.1 ≠ t.destination w'.1

variable {t : FileTree}

instance : Std.Symm (AgreesWith t) where
  symm _ _ h w hw w' hw' hplace := (h w' hw' w hw hplace.symm).symm

theorem ApartFrom.agreesWith {m m' : CompiledModel} (h : ApartFrom t m m') : AgreesWith t m m' :=
  fun w hw w' hw' hplace => absurd hplace (h w hw w' hw')

/-- The projects are kept if they were written and agree. -/
theorem keptIn_iff {t' : FileTree} {ms : List CompiledModel}
    (h : Wrote t (ms.flatMap writes) t') :
    (∀ m ∈ ms, KeptIn t' m) ↔ ∀ m ∈ ms, ∀ m' ∈ ms, AgreesWith t m m' := by
  have hread := h.all_read_iff
  constructor
  · intro hkept m hm m' hm' w hw w' hw'
    refine hread.1 (fun v hv => ?_) w (List.mem_flatMap.2 ⟨m, hm, hw⟩) w'
      (List.mem_flatMap.2 ⟨m', hm', hw'⟩)
    obtain ⟨n, hn, hv⟩ := List.mem_flatMap.1 hv
    exact hkept n hn v hv
  · intro hagree m hm w hw
    refine hread.2 (fun v hv v' hv' => ?_) w (List.mem_flatMap.2 ⟨m, hm, hw⟩)
    obtain ⟨n, hn, hv⟩ := List.mem_flatMap.1 hv
    obtain ⟨n', hn', hv'⟩ := List.mem_flatMap.1 hv'
    exact hagree n hn n' hn' v hv v' hv'

section Generated

variable {o : Options} {doc : Json} {m : CompiledModel}
  (hproject : m.project = Python.Project.ofModel (o.model doc))
include hproject

theorem isPlain_path {file : String × String} (h : file ∈ m.project.files) : IsPlain file.1 := by
  obtain ⟨hclasses, hassociations⟩ := Model.pyName_no_slash doc
  rw [hproject, Options.model] at h
  apply Python.Project.isPlain_of_mem_files _ _ h
  · exact hclasses
  · exact hassociations

/-- A file goes below the directory of its project. -/
theorem destination_write {file : String × String} (h : file ∈ m.project.files) :
    t.destination (join m.source.outDir file.1) =
      t.destination m.source.outDir ++ names file.1 := by
  have hplain := isPlain_path hproject h
  rw [destination_join hplain.not_startsWith, walk_entries (isPlain_iff.1 hplain).1]

/-- Different files of one project go to different places. -/
theorem agreesWith_self : AgreesWith t m m := by
  intro w hw w' hw' hplace
  obtain ⟨file, hfile, rfl⟩ := List.mem_map.1 hw
  obtain ⟨file', hfile', rfl⟩ := List.mem_map.1 hw'
  rw [destination_write hproject hfile, destination_write hproject hfile',
    List.append_cancel_left_eq] at hplace
  have hpath := (isPlain_path hproject hfile).eq_of_names_eq (isPlain_path hproject hfile') hplace
  have hincreasing := Python.Project.files_increasing (o.model doc)
  rw [← hproject] at hincreasing
  rw [hincreasing.eq_of_key_eq hfile hfile' hpath]

end Generated

/-- Projects in directories of one parent are apart exactly when the directories have different
names. -/
theorem apartFrom_iff {j : Job} {m m' : CompiledModel}
    (hproject : ∃ doc, m.project = Python.Project.ofModel (j.options.model doc))
    (hproject' : ∃ doc, m'.project = Python.Project.ofModel (j.options.model doc))
    (hdir : m.source.outDir = join j.outDir m.source.stem)
    (hdir' : m'.source.outDir = join j.outDir m'.source.stem)
    (hstem : IsEntry m.source.stem) (hstem' : IsEntry m'.source.stem) :
    ApartFrom t m m' ↔ m.source.stem ≠ m'.source.stem := by
  obtain ⟨doc, hproject⟩ := hproject
  obtain ⟨doc', hproject'⟩ := hproject'
  have hplace : ∀ {dir stem : String}, IsEntry stem →
      t.destination (join dir stem) = t.destination dir ++ [stem] := by
    intro dir stem hstem
    rw [destination_join hstem.isPlain.not_startsWith, names_of_isEntry hstem,
      walk_entries (by simpa using hstem)]
  constructor
  · -- the entry points of the two projects would be at one place
    intro hapart hsame
    obtain ⟨file, hfile, hentry⟩ := Python.Project.exists_entryPoint (j.options.model doc)
    obtain ⟨file', hfile', hentry'⟩ := Python.Project.exists_entryPoint (j.options.model doc')
    rw [← hproject] at hfile
    rw [← hproject'] at hfile'
    apply hapart _ (List.mem_map_of_mem hfile) _ (List.mem_map_of_mem hfile')
    rw [hdir, hdir', hsame, hentry, hentry']
  · intro hdifferent w hw w' hw' hsame
    obtain ⟨file, hfile, rfl⟩ := List.mem_map.1 hw
    obtain ⟨file', hfile', rfl⟩ := List.mem_map.1 hw'
    rw [destination_write hproject hfile, destination_write hproject' hfile', hdir, hdir',
      hplace hstem, hplace hstem', List.append_assoc, List.append_assoc,
      List.append_cancel_left_eq] at hsame
    exact hdifferent (List.cons.inj hsame).1

end CompiledModel

open CompiledModel

/-- A directory of documents that is compiled has a project for each document below it. All of them
are in the tree at the end exactly when their files agree wherever they go to one place, so all are
if no two go to one place. If no document is named for a directory itself or the one above it, this
is the case exactly when the documents have different names, whatever directories they are in. -/
theorem projects_kept_iff (j : Job) (t t' : FileTree) (summary : Summary)
    (hdir : t.leadsToDir j.input = true) (h : j.compile t = (t', .ok summary)) :
    ∃ ms, j.build t = .ok ms ∧
      t.discover j.input = .ok (ms.map fun m => m.source.path) ∧
      ((∀ m ∈ ms, KeptIn t' m) ↔ ∀ m ∈ ms, ∀ m' ∈ ms, AgreesWith t m m') ∧
      (ms.Pairwise (ApartFrom t) → ∀ m ∈ ms, KeptIn t' m) ∧
      ((∀ m ∈ ms, m.source.stem ≠ "." ∧ m.source.stem ≠ "..") →
        (ms.Pairwise (ApartFrom t) ↔ (ms.map fun m => m.source.stem).Nodup)) := by
  obtain ⟨ms, hms, hwrote⟩ := Job.compile_eq_ok h
  obtain ⟨hsources, hprojects⟩ := Job.build_eq_ok hms
  obtain ⟨hfound, hdirs⟩ := Job.sources_of_dir hdir hsources
  rw [List.map_map] at hfound
  have hkept := keptIn_iff hwrote
  refine ⟨ms, hms, hfound, hkept, fun hapart => hkept.2 ?_, fun hstems => ?_⟩
  · apply List.Pairwise.forall_of_forall
    · -- within one project the paths are different, so its own files never meet
      intro m hm
      obtain ⟨doc, hdoc⟩ := hprojects m hm
      exact agreesWith_self hdoc
    · exact hapart.imp ApartFrom.agreesWith
  · rw [List.Nodup, List.pairwise_map]
    apply List.Pairwise.iff_of_mem
    intro m m' hm hm'
    apply apartFrom_iff (hprojects m hm) (hprojects m' hm')
    · exact hdirs _ (List.mem_map_of_mem hm)
    · exact hdirs _ (List.mem_map_of_mem hm')
    · exact Source.isEntry_stem (hstems m hm).1 (hstems m hm).2
    · exact Source.isEntry_stem (hstems m' hm').1 (hstems m' hm').2

def oneClassText (name : String) : String :=
  "\x7b\"model\":[\x7b\"KL\":\"S\",\"class_id\":\"C\",\"class_name\":\"" ++ name ++ "\"\x7d]\x7d"

def twoDocuments (first second : String) : FileTree :=
  ((startingAt []).withFile ["in", "a", first ++ ".json"] (oneClassText "N")).withFile
    ["in", "b", second ++ ".json"] (oneClassText "No")

def directoryJob : Job := ⟨"in", "out", ⟨none, false⟩⟩

theorem two_names_kept :
    (twoDocuments "n" "s").leadsToDir "in" = true ∧
    ∃ t' summary ms, directoryJob.compile (twoDocuments "n" "s") = (t', .ok summary) ∧
      directoryJob.build (twoDocuments "n" "s") = .ok ms ∧
      (ms.map fun m => m.source.stem) = ["n", "s"] ∧ ∀ m ∈ ms, KeptIn t' m := by
  have hdir : (twoDocuments "n" "s").leadsToDir "in" = true := by decide +kernel
  have hfound : ((twoDocuments "n" "s").discover "in").toOption =
      some ["in/a/n.json", "in/b/s.json"] := by decide +kernel
  have hok : (directoryJob.compile (twoDocuments "n" "s")).2.isOk = true := by decide +kernel
  refine ⟨hdir, ?_⟩
  rcases hcompiled : directoryJob.compile (twoDocuments "n" "s") with ⟨t', e | summary⟩
  · rw [hcompiled] at hok
    cases hok
  · obtain ⟨ms, hms, hpaths, -, hkept, hstems⟩ := projects_kept_iff _ _ t' summary hdir hcompiled
    rw [show directoryJob.input = "in" from rfl] at hpaths
    rw [hpaths] at hfound
    have hnames : (ms.map fun m => m.source.stem) = ["n", "s"] := by
      have hmapped := congrArg (List.map fun path => (fileStem path).getD "model")
        (Option.some.inj hfound)
      rw [List.map_map] at hmapped
      exact hmapped.trans (by decide +kernel)
    refine ⟨t', summary, ms, rfl, hms, hnames, hkept ((hstems fun m hm => ?_).2 ?_)⟩
    · have hstem : m.source.stem ∈ ["n", "s"] := hnames ▸ List.mem_map_of_mem hm
      rcases List.mem_pair.1 hstem with hstem | hstem <;> rw [hstem] <;> decide
    · rw [hnames]
      decide

/-- Projects in one directory with different texts at one path do not agree. -/
theorem CompiledModel.not_agreesWith {t : FileTree} {m m' : CompiledModel} {path text text' : String}
    (hdir : m.source.outDir = m'.source.outDir) (h : (path, text) ∈ m.project.files)
    (h' : (path, text') ∈ m'.project.files) (hne : text ≠ text') : ¬ AgreesWith t m m' := by
  intro hagree
  refine hne (hagree _ (List.mem_map_of_mem h) _ (List.mem_map_of_mem h') ?_)
  rw [hdir]

theorem one_name_overwritten :
    (twoDocuments "m" "m").leadsToDir "in" = true ∧
    ∃ t' summary ms, directoryJob.compile (twoDocuments "m" "m") = (t', .ok summary) ∧
      directoryJob.build (twoDocuments "m" "m") = .ok ms ∧
      (ms.map fun m => m.source) = [⟨"in/a/m.json", "out/m"⟩, ⟨"in/b/m.json", "out/m"⟩] ∧
      ¬ ms.Pairwise (ApartFrom (twoDocuments "m" "m")) ∧ ¬ ∀ m ∈ ms, KeptIn t' m := by
  have hok : (directoryJob.compile (twoDocuments "m" "m")).2.isOk = true := by decide +kernel
  have hbuilt : (directoryJob.build (twoDocuments "m" "m")).toOption.map (fun ms =>
      ms.map fun m =>
        (m.source, (m.project.files.lookup "models/__init__.py").map String.utf8ByteSize)) =
      some [(⟨"in/a/m.json", "out/m"⟩, some 522), (⟨"in/b/m.json", "out/m"⟩, some 527)] := by
    decide +kernel
  refine ⟨by decide +kernel, ?_⟩
  rcases hcompiled : directoryJob.compile (twoDocuments "m" "m") with ⟨t', e | summary⟩
  · rw [hcompiled] at hok
    cases hok
  · obtain ⟨ms, hms, hwrote⟩ := Job.compile_eq_ok hcompiled
    rw [hms] at hbuilt
    obtain ⟨m, rest, rfl, hm, hrest⟩ := List.map_eq_cons_iff.1 (Option.some.inj hbuilt)
    obtain ⟨m', rest', rfl, hm', hnil⟩ := List.map_eq_cons_iff.1 hrest
    obtain rfl := List.map_eq_nil_iff.1 hnil
    obtain ⟨hsource, hsize⟩ := Prod.mk.inj hm
    obtain ⟨hsource', hsize'⟩ := Prod.mk.inj hm'
    obtain ⟨text, htext, hsize⟩ := Option.map_eq_some_iff.1 hsize
    obtain ⟨text', htext', hsize'⟩ := Option.map_eq_some_iff.1 hsize'
    have hclash : ¬ AgreesWith (twoDocuments "m" "m") m m' := by
      apply not_agreesWith (by rw [hsource, hsource']) (mem_of_lookup htext)
        (mem_of_lookup htext')
      rintro rfl
      omega
    refine ⟨t', summary, [m, m'], rfl, hms, by simp [hsource, hsource'], fun hapart => ?_,
      fun hkept => ?_⟩
    · exact hclash (List.rel_of_pairwise_cons hapart List.mem_cons_self).agreesWith
    · exact hclash ((keptIn_iff hwrote).1 hkept m (by simp) m' (by simp))

end ExecutableUml
