import ExecutableUml.Proofs.Files.Projects
import ExecutableUml.Proofs.Results

/-! Checking and building. A check reads and validates the documents that a build compiles, in the
same order, so the two meet the same first failure. Which one this is does not depend on how the
documents are found: it is the fault of the first document, by path, that has one. Nothing is
written before all documents are compiled. -/

namespace ExecutableUml

open FileTree ExecutableUml.Path

namespace Path

theorem mem_insertPath {p q : Path} {qs : List Path} : q ∈ insertPath p qs ↔ q = p ∨ q ∈ qs := by
  induction qs with
  | nil => simp [insertPath]
  | cons first qs ih =>
    rw [insertPath]
    split
    · rw [List.mem_cons, ih, List.mem_cons]
      exact or_left_comm
    · exact List.mem_cons

theorem insertPath_increasing {p : Path} {qs : List Path} (hp : p ∉ qs)
    (h : qs.Pairwise (· < ·)) : (insertPath p qs).Pairwise (· < ·) := by
  induction qs with
  | nil => exact List.pairwise_singleton _ _
  | cons first qs ih =>
    obtain ⟨hne, hnot⟩ := not_or.1 fun h => hp (List.mem_cons.2 h)
    obtain ⟨hfirst, hqs⟩ := List.pairwise_cons.1 h
    rw [insertPath]
    split
    · rename_i hless
      refine List.pairwise_cons.2 ⟨fun q hq => ?_, ih hnot hqs⟩
      rcases mem_insertPath.1 hq with rfl | hq
      · exact hless
      · exact hfirst q hq
    · rename_i hless
      have hmore : p < first := by
        by_contra hmore
        exact hne (Std.Trichotomous.trichotomous _ _ hmore hless)
      refine List.pairwise_cons.2 ⟨fun q hq => ?_, h⟩
      rcases List.mem_cons.1 hq with rfl | hq
      · exact hmore
      · exact List.lt_trans hmore (hfirst q hq)

theorem mem_sorted {p : Path} {paths : List Path} : p ∈ sorted paths ↔ p ∈ paths := by
  induction paths with
  | nil => rfl
  | cons first paths ih => rw [sorted, List.foldr_cons, mem_insertPath, ← sorted, ih, List.mem_cons]

theorem sorted_increasing {paths : List Path} (h : paths.Nodup) :
    (sorted paths).Pairwise (· < ·) := by
  induction paths with
  | nil => exact List.Pairwise.nil
  | cons first paths ih =>
    obtain ⟨hfirst, hpaths⟩ := List.nodup_cons.1 h
    exact insertPath_increasing (fun hmem => hfirst (mem_sorted.1 hmem)) (ih hpaths)

end Path

namespace FileTree

variable {t : FileTree}

theorem below_eq_some {place : Path} {f : Path × FileContent} {rest : Path} :
    (if place.isPrefixOf f.1 && place.length < f.1.length then some (f.1.drop place.length)
      else none) = some rest ↔ f.1 = place ++ rest ∧ rest ≠ [] := by
  constructor
  · intro h
    split at h
    · rename_i hbelow
      rw [Bool.and_eq_true, List.isPrefixOf_iff_prefix, decide_eq_true_iff] at hbelow
      obtain ⟨⟨more, hmore⟩, hlonger⟩ := hbelow
      rw [← hmore, List.drop_left] at h
      cases h
      refine ⟨hmore.symm, ?_⟩
      rintro rfl
      simp [← hmore] at hlonger
    · cases h
  · rintro ⟨hplace, hrest⟩
    have hlonger : place.length < f.1.length := by
      rw [hplace, List.length_append]
      exact Nat.lt_add_of_pos_right (List.length_pos_iff.2 hrest)
    have hbelow : (place.isPrefixOf f.1 && decide (place.length < f.1.length)) = true := by
      rw [Bool.and_eq_true, List.isPrefixOf_iff_prefix, decide_eq_true_iff]
      exact ⟨⟨rest, hplace.symm⟩, hlonger⟩
    rw [if_pos hbelow, hplace, List.drop_left]

theorem mem_filesBelow {place rest : Path} :
    rest ∈ t.filesBelow place ↔ rest ≠ [] ∧ ∃ content, (place ++ rest, content) ∈ t.files := by
  rw [filesBelow, List.mem_filterMap]
  constructor
  · rintro ⟨f, hf, hbelow⟩
    obtain ⟨hplace, hrest⟩ := below_eq_some.1 hbelow
    exact ⟨hrest, f.2, hplace ▸ hf⟩
  · rintro ⟨hrest, content, hf⟩
    exact ⟨_, hf, below_eq_some.2 ⟨rfl, hrest⟩⟩

/-- No two files are below a place by the same names. -/
theorem filesBelow_nodup (t : FileTree) (place : Path) : (t.filesBelow place).Nodup := by
  rw [filesBelow, List.Nodup, List.pairwise_filterMap]
  refine (List.pairwise_map.1 t.distinct).imp fun {f g} hdiffer rest hrest rest' hrest' => ?_
  rintro rfl
  exact hdiffer ((below_eq_some.1 hrest).1.trans (below_eq_some.1 hrest').1.symm)

theorem locate_of_leadsToDir {path : String} (h : t.leadsToDir path = true) :
    t.locate path = .ok (t.destination path) ∧ t.isDir (t.destination path) = true := by
  rw [leadsToDir] at h
  split at h
  · rename_i place hplace
    rw [← destination_of_locate hplace]
    exact ⟨hplace, h⟩
  · cases h

/-- The documents below a directory by the names that lead to them, in the order of these. -/
def documentsBelow (t : FileTree) (dir : String) : List Path :=
  sorted ((t.filesBelow (t.destination dir)).filter fun rest =>
    t.leadsToFile (joinAll dir rest) && isModelFile (joinAll dir rest))

theorem isEmpty_sorted (paths : List Path) : (sorted paths).isEmpty = paths.isEmpty := by
  rw [Bool.eq_iff_iff, List.isEmpty_iff, List.isEmpty_iff, List.eq_nil_iff_forall_not_mem,
    List.eq_nil_iff_forall_not_mem]
  simp only [mem_sorted]

theorem discover_of_dir {dir : String} (h : t.leadsToDir dir = true) :
    t.discover dir = if (t.documentsBelow dir).isEmpty then .error (.noModels dir)
      else .ok ((t.documentsBelow dir).map (joinAll dir)) := by
  obtain ⟨hplace, hisDir⟩ := locate_of_leadsToDir h
  rw [documentsBelow, isEmpty_sorted]
  simp only [discover, hplace, hisDir, if_true]

/-- The names lead from the directory to a file that has the ending of documents. -/
def IsDocumentBelow (t : FileTree) (dir : String) (rest : Path) : Prop :=
  rest ≠ [] ∧ (∃ content, (t.destination dir ++ rest, content) ∈ t.files) ∧
    t.leadsToFile (joinAll dir rest) = true ∧ isModelFile (joinAll dir rest) = true

theorem mem_documentsBelow {dir : String} {rest : Path} :
    rest ∈ t.documentsBelow dir ↔ t.IsDocumentBelow dir rest := by
  rw [documentsBelow, mem_sorted, List.mem_filter, mem_filesBelow, Bool.and_eq_true, and_assoc]
  rfl

theorem documentsBelow_increasing (t : FileTree) (dir : String) :
    (t.documentsBelow dir).Pairwise (· < ·) :=
  sorted_increasing ((t.filesBelow_nodup _).filter _)

/-- What keeps the document at a path from being compiled: it cannot be read, its text is no
document or the document has issues. -/
inductive DocumentFault (t : FileTree) (path : String) : Failure → Prop
  | unreadable {fault : PathFault} (h : t.readFile path = .error fault) :
    DocumentFault t path (.io path fault.message)
  | notJson {text : String} {e : Json.ReadError} (hread : t.readFile path = .ok text)
    (h : Json.read text = .error e) : DocumentFault t path (.invalidJson path e)
  | invalid {text : String} {doc : Json} (hread : t.readFile path = .ok text)
    (hdoc : Json.read text = .ok doc) (h : Document.issues doc ≠ []) :
    DocumentFault t path (.invalidModel (Document.issues doc))

end FileTree

namespace Job

variable {j : Job} {t : FileTree}

theorem validate_eq_error_iff {doc : Json} {e : Failure} :
    validate doc = .error e ↔
      e = .invalidModel (Document.issues doc) ∧ Document.issues doc ≠ [] := by
  rw [validate]
  cases Document.issues doc with
  | nil => simp
  | cons issue issues => simp [eq_comm]

theorem load_eq_ok_iff {path : String} {doc : Json} :
    load t path = .ok doc ↔ ∃ text, t.readFile path = .ok text ∧ Json.read text = .ok doc := by
  rw [load]
  cases hread : t.readFile path with
  | error fault => simp [atPath, bind, Except.bind]
  | ok text =>
    cases hdoc : Json.read text with
    | error e => simp [atPath, hdoc, bind, Except.bind, throw, throwThe, MonadExceptOf.throw]
    | ok doc' => simp [atPath, hdoc, bind, Except.bind, pure, Except.pure]

theorem load_eq_error_iff {path : String} {e : Failure} :
    load t path = .error e ↔
      (∃ fault, t.readFile path = .error fault ∧ e = .io path fault.message) ∨
      ∃ text error, t.readFile path = .ok text ∧ Json.read text = .error error ∧
        e = .invalidJson path error := by
  rw [load]
  cases hread : t.readFile path with
  | error fault => simp [atPath, bind, Except.bind, eq_comm]
  | ok text =>
    cases hdoc : Json.read text with
    | error e =>
      simp [atPath, hdoc, bind, Except.bind, throw, throwThe, MonadExceptOf.throw, eq_comm]
    | ok doc' => simp [atPath, hdoc, bind, Except.bind, pure, Except.pure]

def checkAt (t : FileTree) (path : String) : Except Failure Unit := do
  validate (← load t path)

theorem checkAt_eq_error_iff {path : String} {e : Failure} :
    checkAt t path = .error e ↔ t.DocumentFault path e := by
  rw [checkAt, bind_eq_error_iff, load_eq_error_iff]
  constructor
  · rintro ((⟨fault, hread, rfl⟩ | ⟨text, error, hread, herror, rfl⟩) | ⟨doc, hdoc, h⟩)
    · exact .unreadable hread
    · exact .notJson hread herror
    · obtain ⟨text, hread, hjson⟩ := load_eq_ok_iff.1 hdoc
      obtain ⟨rfl, hissues⟩ := validate_eq_error_iff.1 h
      exact .invalid hread hjson hissues
  · intro h
    cases h with
    | unreadable h => exact .inl (.inl ⟨_, h, rfl⟩)
    | notJson hread h => exact .inl (.inr ⟨_, _, hread, h, rfl⟩)
    | invalid hread hdoc h =>
      exact .inr ⟨_, load_eq_ok_iff.2 ⟨_, hread, hdoc⟩, validate_eq_error_iff.2 ⟨rfl, h⟩⟩

theorem checkAt_eq_ok_iff {path : String} :
    (∃ r, checkAt t path = .ok r) ↔ ∀ e, ¬ t.DocumentFault path e := by
  simp only [← checkAt_eq_error_iff]
  cases checkAt t path with
  | error e => simp
  | ok r => simp

def documents (j : Job) (t : FileTree) : List Path :=
  if t.leadsToDir j.input then t.documentsBelow j.input else [[]]

def pathOf (j : Job) (rest : Path) : String := joinAll j.input rest

theorem sources_eq (j : Job) (t : FileTree) :
    ∃ ss : List Source, ss.map Source.path = (j.documents t).map j.pathOf ∧
      j.sources t = if ss.isEmpty then .error (.noModels j.input) else .ok ss := by
  rw [documents, sources]
  split
  · rename_i hdir
    refine ⟨((t.documentsBelow j.input).map j.pathOf).map fun path =>
      ⟨path, join j.outDir ((fileStem path).getD "model")⟩, ?_, ?_⟩
    · rw [List.map_map]
      exact List.map_id _
    · rw [discover_of_dir hdir, List.isEmpty_map, List.isEmpty_map]
      cases (t.documentsBelow j.input).isEmpty with
      | true => rfl
      | false => rfl
  · exact ⟨[⟨j.input, j.outDir⟩], rfl, rfl⟩

/-- The names lead to a document of the job: the input itself, or one below it if it is a
directory. -/
def IsDocument (j : Job) (t : FileTree) (rest : Path) : Prop :=
  if t.leadsToDir j.input then t.IsDocumentBelow j.input rest else rest = []

theorem mem_documents {rest : Path} : rest ∈ j.documents t ↔ j.IsDocument t rest := by
  rw [documents, IsDocument]
  split
  · exact mem_documentsBelow
  · exact List.mem_singleton

theorem documents_increasing (j : Job) (t : FileTree) : (j.documents t).Pairwise (· < ·) := by
  rw [documents]
  split
  · exact t.documentsBelow_increasing j.input
  · exact List.pairwise_singleton _ _

/-- The failure is the one of the first document, by path, that has a fault, or there are no
documents. -/
inductive FirstFailure (j : Job) (t : FileTree) : Failure → Prop
  | noDocuments (h : ∀ rest, ¬ j.IsDocument t rest) : FirstFailure j t (.noModels j.input)
  | fault {rest : Path} {e : Failure} (hdocument : j.IsDocument t rest)
    (h : t.DocumentFault (j.pathOf rest) e)
    (hfirst : ∀ other, j.IsDocument t other → other < rest →
      ∀ e', ¬ t.DocumentFault (j.pathOf other) e') : FirstFailure j t e

/-- A check goes through the documents and counts them. -/
theorem check_eq (j : Job) (t : FileTree) :
    j.check t = if (j.documents t).isEmpty then .error (.noModels j.input)
      else ((j.documents t).mapM fun rest => checkAt t (j.pathOf rest)).map
        fun _ => (j.documents t).length := by
  obtain ⟨ss, hpaths, hsources⟩ := sources_eq j t
  have hchecks : ((j.documents t).mapM fun rest => checkAt t (j.pathOf rest)) =
      ss.mapM (checkSource t) := by
    have hmapped : ((j.documents t).map j.pathOf).mapM (checkAt t) =
        (ss.map Source.path).mapM (checkAt t) := by rw [hpaths]
    rw [List.mapM_map, List.mapM_map] at hmapped
    exact hmapped
  have hlength : ss.length = (j.documents t).length := by
    simpa using congrArg List.length hpaths
  have hempty : ss.isEmpty = (j.documents t).isEmpty := by
    simpa using congrArg List.isEmpty hpaths
  have hcount : ∀ x : Except Failure (List Unit),
      (x >>= fun _ => .ok ss.length) = x.map fun _ => ss.length := by
    intro x
    cases x with
    | error e => rfl
    | ok rs => rfl
  rw [check, hsources, ← hempty, ← hlength, hchecks]
  cases ss.isEmpty with
  | true => rfl
  | false => exact hcount _

theorem check_eq_error_iff {e : Failure} :
    j.check t = .error e ↔
      (j.documents t = [] ∧ e = .noModels j.input) ∨
      ∃ before rest after, j.documents t = before ++ rest :: after ∧
        (∀ other ∈ before, ∀ e', ¬ t.DocumentFault (j.pathOf other) e') ∧
        t.DocumentFault (j.pathOf rest) e := by
  have hfirst := mapM_eq_error_iff (f := fun rest => checkAt t (j.pathOf rest))
    (l := j.documents t) (e := e)
  simp only [checkAt_eq_ok_iff, checkAt_eq_error_iff] at hfirst
  rw [check_eq, ← hfirst]
  cases j.documents t with
  | nil =>
    constructor
    · intro h
      cases h
      exact .inl ⟨rfl, rfl⟩
    · rintro (⟨-, rfl⟩ | h)
      · rfl
      · cases h
  | cons rest rests =>
    rw [List.isEmpty_cons, if_neg Bool.false_ne_true, map_eq_error_iff]
    simp

theorem check_eq_error_iff_firstFailure {e : Failure} :
    j.check t = .error e ↔ FirstFailure j t e := by
  have hasymm : Std.Asymm fun p q : Path => p < q :=
    ⟨fun _ _ h h' => List.lt_irrefl _ (List.lt_trans h h')⟩
  rw [check_eq_error_iff, exists_split_iff (documents_increasing j t)]
  simp only [mem_documents, List.eq_nil_iff_forall_not_mem]
  constructor
  · rintro (⟨hnone, rfl⟩ | ⟨rest, hrest, hfault, hfirst⟩)
    · exact .noDocuments hnone
    · exact .fault hrest hfault hfirst
  · intro h
    cases h with
    | noDocuments h => exact .inl ⟨h, rfl⟩
    | fault hrest h hfirst => exact .inr ⟨_, hrest, h, hfirst⟩

/-- Without strictness, a document is compiled if it is valid. -/
theorem compileDocument_map {o : Options} (h : o.strict = false) (doc : Json) :
    (compileDocument o doc).map (fun _ => ()) = validate doc := by
  rw [compileDocument]
  cases validate doc with
  | error e => rfl
  | ok u =>
    simp only [h, Bool.false_and]
    rfl

theorem compileSource_map (h : j.options.strict = false) (s : Source) :
    (j.compileSource t s).map (fun _ => ()) = checkSource t s := by
  rw [compileSource, checkSource]
  cases load t s.path with
  | error e => rfl
  | ok doc =>
    have hmade : (compileDocument j.options doc >>= fun project =>
        .ok (⟨s, project⟩ : CompiledModel)).map (fun _ => ()) =
        (compileDocument j.options doc).map fun _ => () := by
      cases compileDocument j.options doc with
      | error e => rfl
      | ok project => rfl
    exact hmade.trans (compileDocument_map h doc)

/-- A build that is not strict has as many models as a check counts documents, or their failure. -/
theorem check_eq_build (h : j.options.strict = false) :
    j.check t = (j.build t).map List.length := by
  rw [check, build]
  cases j.sources t with
  | error e => rfl
  | ok ss => exact (length_mapM (compileSource_map h) ss).symm

/-- A build has one model for each document, in order. -/
theorem paths_of_build {ms : List CompiledModel} (h : j.build t = .ok ms) :
    (ms.map fun m => m.source.path) = (j.documents t).map j.pathOf := by
  obtain ⟨ss, hpaths, hsources⟩ := sources_eq j t
  rw [(build_eq_ok h).1] at hsources
  split at hsources
  · cases hsources
  · rw [← hpaths, ← Except.ok.inj hsources, List.map_map]
    rfl

theorem compile_of_build_error {e : Failure} (h : j.build t = .error e) :
    j.compile t = (t, .error e) := by
  rw [compile, h]

/-- A check and a build that is not strict agree: they go through the same number of documents, or
have the same failure. A check fails exactly with the fault of the first document, by path, that has
one, or because there are no documents; and what is built is one model for each document, in the
order of their paths. Strict or not, a build that fails has its failure reported and leaves the tree
as it is, whatever was compiled before. -/
theorem check_agrees_with_build (j : Job) (t : FileTree) :
    (j.options.strict = false →
      (∀ n, j.check t = .ok n ↔ ∃ ms, j.build t = .ok ms ∧ ms.length = n) ∧
      ∀ e, j.check t = .error e ↔ j.build t = .error e) ∧
    (∀ e, j.check t = .error e ↔ FirstFailure j t e) ∧
    (∀ ms, j.build t = .ok ms → ∃ rests : List Path,
      (ms.map fun m => m.source.path) = rests.map j.pathOf ∧
      (∀ rest, rest ∈ rests ↔ j.IsDocument t rest) ∧ rests.Pairwise (· < ·)) ∧
    ∀ e, j.build t = .error e → j.compile t = (t, .error e) := by
  refine ⟨fun hstrict => ⟨fun n => ?_, fun e => ?_⟩, fun e => ?_, fun ms hms => ?_, fun e => ?_⟩
  · rw [check_eq_build hstrict, map_eq_ok_iff]
  · rw [check_eq_build hstrict, map_eq_error_iff]
  · exact check_eq_error_iff_firstFailure
  · exact ⟨j.documents t, paths_of_build hms, fun _ => mem_documents, documents_increasing j t⟩
  · exact compile_of_build_error

/-- A tree with a document and, before it in the tree but behind it by path, a file that is no text
and a text that is no document. -/
def brokenDocuments : FileTree :=
  (((startingAt []).withFile ["in", "c.json"] (.text "[")).withFile
    ["in", "b", "s.json"] (.unreadable .notText)).withFile
    ["in", "a", "n.json"] (.text (oneClassText "N"))

theorem documents_broken :
    directoryJob.documents brokenDocuments = [["a", "n.json"], ["b", "s.json"], ["c.json"]] := by
  decide +kernel

def notTextFailure : Failure := .io "in/b/s.json" "stream did not contain valid UTF-8"

/-- The first of the two is what fails. -/
theorem firstFailure_broken : FirstFailure directoryJob brokenDocuments notTextFailure := by
  have hvalid : ∃ r, checkAt brokenDocuments "in/a/n.json" = .ok r := by
    have hok : (checkAt brokenDocuments "in/a/n.json").isOk = true := by decide +kernel
    cases h : checkAt brokenDocuments "in/a/n.json" with
    | error e =>
      rw [h] at hok
      cases hok
    | ok r => exact ⟨r, rfl⟩
  have hread : brokenDocuments.readFile "in/b/s.json" = .error .notText := by decide +kernel
  have hdocument : directoryJob.IsDocument brokenDocuments ["b", "s.json"] :=
    mem_documents.1 (by simp [documents_broken])
  refine .fault hdocument (.unreadable hread) ?_
  intro other hother hless
  rw [← mem_documents, documents_broken] at hother
  simp only [List.mem_cons, List.not_mem_nil, or_false] at hother
  rcases hother with rfl | rfl | rfl
  · exact checkAt_eq_ok_iff.1 hvalid
  · exact absurd hless (List.lt_irrefl _)
  · exact absurd hless (by decide +kernel)

/-- A tree with two documents is built, and the tree with a broken one is left as it is. -/
theorem two_trees_checked :
    directoryJob.options.strict = false ∧
    (directoryJob.check (twoDocuments "n" "s") = .ok 2 ∧
      ∃ ms, directoryJob.build (twoDocuments "n" "s") = .ok ms ∧ ms.length = 2 ∧
        ∃ rests : List Path, (ms.map fun m => m.source.path) = rests.map directoryJob.pathOf ∧
          rests.Pairwise (· < ·)) ∧
    (directoryJob.check brokenDocuments = .error notTextFailure ∧
      directoryJob.build brokenDocuments = .error notTextFailure ∧
      directoryJob.compile brokenDocuments = (brokenDocuments, .error notTextFailure)) := by
  refine ⟨rfl, ?_, ?_⟩
  · have hcount : (directoryJob.check (twoDocuments "n" "s")).toOption = some 2 := by
      decide +kernel
    obtain ⟨hagree, -, hbuilt, -⟩ := check_agrees_with_build directoryJob (twoDocuments "n" "s")
    cases hcheck : directoryJob.check (twoDocuments "n" "s") with
    | error e =>
      rw [hcheck] at hcount
      cases hcount
    | ok n =>
      rw [hcheck] at hcount
      cases hcount
      obtain ⟨ms, hms, hlength⟩ := ((hagree rfl).1 2).1 hcheck
      obtain ⟨rests, hpaths, -, hordered⟩ := hbuilt ms hms
      exact ⟨rfl, ms, hms, hlength, rests, hpaths, hordered⟩
  · obtain ⟨hagree, hfirst, -, hkept⟩ := check_agrees_with_build directoryJob brokenDocuments
    have hcheck := (hfirst _).2 firstFailure_broken
    have hbuild := ((hagree rfl).2 _).1 hcheck
    exact ⟨hcheck, hbuild, hkept _ hbuild⟩

end Job

end ExecutableUml
