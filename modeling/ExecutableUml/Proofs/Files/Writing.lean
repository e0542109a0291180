import ExecutableUml.Files.Build
import ExecutableUml.Proofs.Files.Places
import ExecutableUml.Proofs.Json.Fields
import ExecutableUml.Proofs.Results

/-! What a run of writes leaves in a file tree. Directories stay, files stay readable, and at each
place the last write stands. So every file that was written has its own text at the end exactly when
no two writes put different texts at one place. -/

namespace ExecutableUml

namespace FileTree

variable {t t' : FileTree}

theorem lookup_setFile (p q : Path) (content : FileContent) (files : List (Path × FileContent)) :
    (setFile p content files).lookup q = if q = p then some content else files.lookup q := by
  induction files with
  | nil => exact lookup_cons_eq q p content []
  | cons f rest ih =>
    have hfirst := lookup_cons_eq q f.1 f.2 rest
    rw [setFile]
    split
    · rename_i hp
      rw [lookup_cons_eq, hfirst, ← hp]
      split <;> rfl
    · rename_i hp
      rw [lookup_cons_eq q f.1 f.2, ih, hfirst]
      by_cases hq : q = p
      · rw [if_pos hq, if_pos hq, if_neg (hq ▸ hp)]
      · rw [if_neg hq, if_neg hq]

theorem content?_addFile (p q : Path) (content : FileContent) :
    (t.addFile p content).content? q = if q = p then some content else t.content? q :=
  lookup_setFile p q content t.files

theorem isDir_addDir (p q : Path) : (t.addDir p).isDir q = (t.isDir q || decide (q = p)) := by
  rw [addDir]
  split
  · rename_i hp
    by_cases hq : q = p
    · rw [hq, hp, Bool.true_or]
    · rw [decide_eq_false hq, Bool.or_false]
  · simp [isDir, Bool.or_assoc]

theorem content?_addDir (p q : Path) : (t.addDir p).content? q = t.content? q := by
  rw [addDir]
  split
  · rfl
  · rfl

/-- What making directories and writing files keeps. -/
structure Grows (t t' : FileTree) : Prop where
  workDir : t'.workDir = t.workDir
  isDir : ∀ p, t.isDir p = true → t'.isDir p = true
  text : ∀ p c, t.isDir p = false → t.content? p = some (.text c) →
    t'.isDir p = false ∧ ∃ c', t'.content? p = some (.text c')

namespace Grows

theorem refl (t : FileTree) : Grows t t := ⟨rfl, fun _ h => h, fun _ c hd hc => ⟨hd, c, hc⟩⟩

theorem trans {t'' : FileTree} (h : Grows t t') (h' : Grows t' t'') : Grows t t'' where
  workDir := h'.workDir.trans h.workDir
  isDir p hp := h'.isDir p (h.isDir p hp)
  text p c hd hc := by
    obtain ⟨hd', c', hc'⟩ := h.text p c hd hc
    exact h'.text p c' hd' hc'

theorem start (h : Grows t t') (path : String) : t'.start path = t.start path := by
  rw [FileTree.start, FileTree.start, h.workDir]

theorem destination (h : Grows t t') (path : String) :
    t'.destination path = t.destination path := by
  rw [FileTree.destination, FileTree.destination, h.start]

theorem locateFrom (h : Grows t t') {place p : Path} {steps : List String}
    (hp : t.locateFrom place steps = .ok p) : t'.locateFrom place steps = .ok p := by
  induction steps generalizing place with
  | nil => exact hp
  | cons step steps ih =>
    rw [locateFrom_cons_eq_ok] at hp ⊢
    obtain ⟨hstep, hp⟩ := hp
    refine ⟨hstep.imp_right (Or.imp_right fun hname => ?_), ih hp⟩
    exact hname.imp_right (Or.imp_right (h.isDir _))

theorem locate (h : Grows t t') {path : String} {p : Path} (hp : t.locate path = .ok p) :
    t'.locate path = .ok p := by
  rw [FileTree.locate] at hp ⊢
  split at hp
  · cases hp
  · split at hp
    · cases hp
    · rename_i hempty
      rw [if_neg hempty, h.start]
      exact h.locateFrom hp

theorem addDir (p : Path) (h : t.isFile p = false) : Grows t (t.addDir p) where
  workDir := by
    rw [FileTree.addDir]
    split <;> rfl
  isDir q hq := by rw [isDir_addDir, hq, Bool.true_or]
  text q c hd hc := by
    refine ⟨?_, c, (content?_addDir p q).trans hc⟩
    rw [isDir_addDir, hd, Bool.false_or, decide_eq_false_iff_not]
    rintro rfl
    rw [FileTree.isFile, hc] at h
    cases h

theorem addFile (p : Path) (content : String) : Grows t (t.addFile p (.text content)) where
  workDir := rfl
  isDir _ hq := hq
  text q c hd hc := by
    refine ⟨hd, ?_⟩
    rw [content?_addFile]
    split
    · exact ⟨content, rfl⟩
    · exact ⟨c, hc⟩

end Grows

theorem readFile_eq_ok {path c : String} :
    t.readFile path = .ok c ↔
      ∃ p, t.locate path = .ok p ∧ t.isDir p = false ∧ t.content? p = some (.text c) := by
  constructor
  · intro h
    obtain ⟨p, hp, h⟩ := ok_of_bind h
    obtain ⟨hd, h⟩ := ok_of_throwIf h
    refine ⟨p, hp, Bool.eq_false_iff.2 hd, ?_⟩
    split at h
    · rename_i text hc
      cases h
      exact hc
    · cases h
    · cases h
  · rintro ⟨p, hp, hd, hc⟩
    simp only [readFile, hp, bind, Except.bind, hd, hc]
    rfl

theorem content?_of_readFile {path c : String} (h : t.readFile path = .ok c) :
    t.content? (t.destination path) = some (.text c) := by
  obtain ⟨p, hp, -, hc⟩ := readFile_eq_ok.1 h
  rwa [destination_of_locate hp] at hc

/-- A file that can be read can be read in the grown tree, at the same place. -/
theorem Grows.readFile (h : Grows t t') {path c : String} (hr : t.readFile path = .ok c) :
    ∃ c', t'.readFile path = .ok c' := by
  obtain ⟨p, hp, hd, hc⟩ := readFile_eq_ok.1 hr
  obtain ⟨hd', c', hc'⟩ := h.text p c hd hc
  exact ⟨c', readFile_eq_ok.2 ⟨p, h.locate hp, hd', hc'⟩⟩

/-- What a place holds after writes, given what it held before: the last write there stands. -/
def written (t : FileTree) (p : Path) (writes : List (String × String))
    (before : Option FileContent) : Option FileContent :=
  writes.foldl (fun c w => if t.destination w.1 = p then some (.text w.2) else c) before

/-- Writes that agree on the text at a place leave this text there, if there is one. -/
theorem written_eq_some {p : Path} {c : String} {writes : List (String × String)}
    (h : ∀ w ∈ writes, t.destination w.1 = p → w.2 = c) {before : Option FileContent}
    (hany : before = some (.text c) ∨ ∃ w ∈ writes, t.destination w.1 = p) :
    t.written p writes before = some (.text c) := by
  induction writes generalizing before with
  | nil => simpa [written] using hany
  | cons w writes ih =>
    obtain ⟨hw, hwrites⟩ := List.forall_mem_cons.1 h
    have hcons : t.written p (w :: writes) before =
        t.written p writes (if t.destination w.1 = p then some (.text w.2) else before) := rfl
    rw [hcons]
    apply ih hwrites
    by_cases hp : t.destination w.1 = p
    · rw [if_pos hp, hw hp]
      exact .inl rfl
    · rw [if_neg hp]
      refine hany.imp_right fun ⟨w', hw', hp'⟩ => ?_
      rcases List.mem_cons.1 hw' with rfl | hw'
      · exact absurd hp' hp
      · exact ⟨w', hw', hp'⟩

/-- The second tree is what the first one is after these writes, with directories made for them. -/
structure Wrote (t : FileTree) (writes : List (String × String)) (t' : FileTree) : Prop where
  grows : Grows t t'
  content? : ∀ p, t'.content? p = t.written p writes (t.content? p)
  readable : ∀ w ∈ writes, ∃ c, t'.readFile w.1 = .ok c

namespace Wrote

theorem refl (t : FileTree) : Wrote t [] t := ⟨.refl t, fun _ => rfl, by simp⟩

theorem trans {t'' : FileTree} {writes writes' : List (String × String)}
    (h : Wrote t writes t') (h' : Wrote t' writes' t'') : Wrote t (writes ++ writes') t'' where
  grows := h.grows.trans h'.grows
  content? p := by
    have hwritten : ∀ before, t'.written p writes' before = t.written p writes' before := by
      intro before
      rw [written, written]
      simp only [h.grows.destination]
    rw [h'.content?, hwritten, h.content?, written, written, written, List.foldl_append]
  readable w hw := by
    rcases List.mem_append.1 hw with hw | hw
    · obtain ⟨c, hc⟩ := h.readable w hw
      exact h'.grows.readFile hc
    · exact h'.readable w hw

theorem addDir (p : Path) (h : t.isFile p = false) : Wrote t [] (t.addDir p) :=
  ⟨.addDir p h, content?_addDir p, by simp⟩

/-- Every file that was written has its own text exactly when no two writes put different texts at
one place. -/
theorem all_read_iff {writes : List (String × String)} (h : Wrote t writes t') :
    (∀ w ∈ writes, t'.readFile w.1 = .ok w.2) ↔
      ∀ w ∈ writes, ∀ w' ∈ writes, t.destination w.1 = t.destination w'.1 → w.2 = w'.2 := by
  constructor
  · intro hread w hw w' hw' hplace
    have hc := content?_of_readFile (hread w hw)
    have hc' := content?_of_readFile (hread w' hw')
    rw [h.grows.destination] at hc hc'
    rw [hplace, hc'] at hc
    exact (FileContent.text.inj (Option.some.inj hc)).symm
  · intro hagree w hw
    obtain ⟨c, hc⟩ := h.readable w hw
    have hplace := content?_of_readFile hc
    rw [h.grows.destination, h.content?, written_eq_some
      (fun w' hw' heq => hagree w' hw' w hw heq) (.inr ⟨w, hw, rfl⟩)] at hplace
    rw [hc, FileContent.text.inj (Option.some.inj hplace)]

end Wrote

section Making

/-- A directory that is made is at a place where there is no file. -/
theorem makeDir_eq_ok {start : Path} {steps : List String} (h : t.makeDir start steps = .ok t') :
    ∃ p, t.isFile p = false ∧ t' = t.addDir p := by
  obtain ⟨place, -, h⟩ := ok_of_bind h
  split at h
  · cases h
  · obtain ⟨-, h⟩ := ok_of_throwIf h
    obtain ⟨-, h⟩ := ok_of_throwIf h
    obtain ⟨hfree, h⟩ := ok_of_throwIf h
    cases h
    rw [Bool.or_eq_true, not_or] at hfree
    exact ⟨_, Bool.eq_false_iff.2 hfree.2, rfl⟩

theorem ensureDir_wrote (start : Path) (steps : List String) :
    Wrote t [] (t.ensureDir start steps).1 := by
  rw [ensureDir]
  split
  · rename_i made hmade
    obtain ⟨p, hp, rfl⟩ := makeDir_eq_ok hmade
    exact .addDir p hp
  · split
    · exact .refl t
    · exact .refl t

theorem ensureDirs_wrote (start : Path) (ways : List (List String)) :
    Wrote t [] (t.ensureDirs start ways).1 := by
  induction ways generalizing t with
  | nil => exact .refl t
  | cons steps above ih =>
    rw [ensureDirs]
    split
    · split
      · rename_i made hmade
        have habove : Wrote t [] made := by
          have := ih (t := t)
          rwa [hmade] at this
        exact habove.trans (ensureDir_wrote start steps)
      · exact ih
    · exact ensureDir_wrote start steps

theorem createDirs_wrote (path : String) : Wrote t [] (t.createDirs path).1 := by
  rw [createDirs]
  split
  · exact .refl t
  · exact ensureDirs_wrote _ _

theorem writeFile_wrote {path content : String} (h : t.writeFile path content = .ok t') :
    Wrote t [(path, content)] t' := by
  obtain ⟨p, hp, h⟩ := ok_of_bind h
  obtain ⟨hd, h⟩ := ok_of_throwIf h
  cases h
  have hgrows : Grows t (t.addFile p (.text content)) := .addFile p content
  refine ⟨hgrows, fun q => ?_, fun w hw => ?_⟩
  · rw [content?_addFile, destination_of_locate hp]
    simp only [written, List.foldl_cons, List.foldl_nil, eq_comm]
  · cases List.mem_singleton.1 hw
    refine ⟨content, readFile_eq_ok.2 ⟨p, hgrows.locate hp, Bool.eq_false_iff.2 hd, ?_⟩⟩
    rw [content?_addFile, if_pos rfl]

end Making

end FileTree

open FileTree

def CompiledModel.writes (m : CompiledModel) : List (String × String) :=
  m.project.files.map fun f => (Path.join m.source.outDir f.1, f.2)

section Projects

variable {t t' : FileTree}

theorem writeGenerated_wrote {outDir path content : String}
    (h : writeGenerated t outDir path content = (t', .ok ())) :
    Wrote t [(Path.join outDir path, content)] t' := by
  have hdirs := createDirs_wrote (t := t) (directoryOf outDir path)
  rw [writeGenerated] at h
  split at h
  · cases h
  · rename_i made hmade
    rw [hmade] at hdirs
    split at h
    · rename_i final hfinal
      cases h
      exact hdirs.trans (writeFile_wrote hfinal)
    · cases h

theorem writeFiles_wrote {outDir : String} {files : List (String × String)}
    (h : writeFiles outDir t files = (t', .ok ())) :
    Wrote t (files.map fun f => (Path.join outDir f.1, f.2)) t' := by
  induction files generalizing t with
  | nil =>
    cases h
    exact .refl _
  | cons f files ih =>
    rw [writeFiles] at h
    split at h
    · rename_i next hnext
      exact (writeGenerated_wrote hnext).trans (ih h)
    · rename_i hfailed
      exact absurd h (hfailed t')

theorem writeProject_wrote {m : CompiledModel} (h : writeProject t m = (t', .ok ())) :
    Wrote t m.writes t' := by
  have hdirs := createDirs_wrote (t := t) m.source.outDir
  rw [writeProject] at h
  split at h
  · rename_i made hmade
    rw [hmade] at hdirs
    exact hdirs.trans (writeFiles_wrote h)
  · cases h

theorem writeProjects_wrote {ms : List CompiledModel} (h : writeProjects t ms = (t', .ok ())) :
    Wrote t (ms.flatMap CompiledModel.writes) t' := by
  induction ms generalizing t with
  | nil =>
    cases h
    exact .refl _
  | cons m ms ih =>
    rw [writeProjects] at h
    split at h
    · rename_i next hnext
      rw [List.flatMap_cons]
      exact (writeProject_wrote hnext).trans (ih h)
    · rename_i hfailed
      exact absurd h (hfailed t')

end Projects

end ExecutableUml
