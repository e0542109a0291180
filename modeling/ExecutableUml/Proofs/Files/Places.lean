import ExecutableUml.Files.Tree
import ExecutableUml.Proofs.Text.Split

/-! Where path texts lead. A look-up that succeeds ends where the names of the path lead, whatever
the tree holds, and a joined path has the names of its parts one after the other. -/

namespace ExecutableUml

open Text

namespace Path

/-- The name of a file or directory in the one that holds it. -/
structure IsEntry (name : String) : Prop where
  ne_empty : name ≠ ""
  ne_dot : name ≠ "."
  ne_dots : name ≠ ".."
  no_slash : '/' ∉ name.toList

instance (name : String) : Decidable (IsEntry name) :=
  decidable_of_iff (name ≠ "" ∧ name ≠ "." ∧ name ≠ ".." ∧ '/' ∉ name.toList)
    ⟨fun ⟨h, hd, hu, hs⟩ => ⟨h, hd, hu, hs⟩, fun ⟨h, hd, hu, hs⟩ => ⟨h, hd, hu, hs⟩⟩

/-- A path that leads downwards, written without anything superfluous. -/
def IsPlain (path : String) : Prop :=
  ∃ entries : Path, (∀ name ∈ entries, IsEntry name) ∧ path = joinWith "/" entries

theorem names_append (a b : String) : names (a ++ "/" ++ b) = names a ++ names b := by
  have htext : (a ++ "/" ++ b).toList = a.toList ++ '/' :: b.toList := by simp
  rw [names, htext, splitAtChar_append, List.map_append, List.filter_append]
  rfl

theorem names_empty : names "" = [] := by decide

theorem names_join (dir name : String) : names (join dir name) = names dir ++ names name := by
  rw [join]
  split
  · rename_i hempty
    rw [String.isEmpty_iff.1 hempty, names_empty, List.nil_append]
  · split
    · rename_i hslash
      obtain ⟨front, hfront⟩ := List.getLast?_eq_some_iff.1 (beq_iff_eq.1 hslash)
      have hdir : dir = String.ofList front ++ "/" := by
        apply String.toList_inj.1
        simpa using hfront
      have hnames : names dir = names (String.ofList front) := by
        rw [hdir, ← String.append_empty (s := String.ofList front ++ "/"), names_append, names_empty,
          List.append_nil]
      rw [hnames, hdir, names_append]
    · exact names_append dir name

theorem names_of_isEntry {name : String} (h : IsEntry name) : names name = [name] := by
  rw [names, splitAtChar_of_not_mem h.no_slash]
  simp [h.ne_empty, h.ne_dot]

theorem not_mem_of_mem_names {name text : String} (h : name ∈ names text) :
    name ≠ "" ∧ name ≠ "." ∧ '/' ∉ name.toList := by
  obtain ⟨hmem, hne⟩ := List.mem_filter.1 h
  obtain ⟨piece, hpiece, rfl⟩ := List.mem_map.1 hmem
  rw [Bool.and_eq_true, bne_iff_ne, bne_iff_ne] at hne
  refine ⟨hne.1, hne.2, ?_⟩
  rw [String.toList_ofList]
  exact not_mem_of_mem_splitAtChar hpiece

/-- The names of a plain path are the ones that it is made from. -/
theorem names_joinWith {entries : Path} (h : ∀ name ∈ entries, IsEntry name) :
    names (joinWith "/" entries) = entries := by
  induction entries with
  | nil => exact names_empty
  | cons first rest ih =>
    obtain ⟨hfirst, hrest⟩ := List.forall_mem_cons.1 h
    cases rest with
    | nil => exact names_of_isEntry hfirst
    | cons second rest =>
      rw [joinWith.eq_3 _ _ _ (by simp), names_append, names_of_isEntry hfirst, ih hrest]
      rfl

theorem isPlain_iff {path : String} :
    IsPlain path ↔ (∀ name ∈ names path, IsEntry name) ∧ path = joinWith "/" (names path) := by
  constructor
  · rintro ⟨entries, hentries, rfl⟩
    rw [names_joinWith hentries]
    exact ⟨hentries, rfl⟩
  · rintro ⟨hentries, hpath⟩
    exact ⟨names path, hentries, hpath⟩

instance (path : String) : Decidable (IsPlain path) := decidable_of_iff _ isPlain_iff.symm

theorem IsPlain.eq_of_names_eq {p q : String} (hp : IsPlain p) (hq : IsPlain q)
    (h : names p = names q) : p = q := by
  rw [(isPlain_iff.1 hp).2, h, ← (isPlain_iff.1 hq).2]

theorem IsEntry.isPlain {name : String} (h : IsEntry name) : IsPlain name :=
  ⟨[name], by simpa using h, rfl⟩

theorem startsWith_slash_iff {text : String} :
    text.startsWith "/" = true ↔ text.toList.head? = some '/' := by
  rw [String.startsWith_string_iff]
  cases text.toList with
  | nil => simp
  | cons c cs => simp [eq_comm]

theorem IsPlain.not_startsWith {path : String} (h : IsPlain path) :
    path.startsWith "/" = false := by
  rw [← Bool.not_eq_true, startsWith_slash_iff]
  intro hslash
  obtain ⟨entries, hentries, rfl⟩ := h
  cases entries with
  | nil => simp [joinWith] at hslash
  | cons first rest =>
    have hfirst := hentries first List.mem_cons_self
    -- the first character of the path is the first one of its first name
    have hhead : (joinWith "/" (first :: rest)).toList.head? = first.toList.head? := by
      cases rest with
      | nil => rfl
      | cons second rest =>
        rw [joinWith.eq_3 _ _ _ (by simp)]
        cases hchars : first.toList with
        | nil => exact absurd (String.toList_eq_nil_iff.1 hchars) hfirst.ne_empty
        | cons c cs => simp [hchars]
    rw [hhead] at hslash
    exact hfirst.no_slash (List.mem_of_mem_head? hslash)

def follow (place : Path) (step : String) : Path :=
  if step = "." then place else if step = ".." then place.dropLast else place ++ [step]

def walk (place : Path) (steps : List String) : Path := steps.foldl follow place

theorem walk_append (place : Path) (a b : List String) :
    walk place (a ++ b) = walk (walk place a) b :=
  List.foldl_append

/-- Dots lead nowhere else. -/
theorem walk_filter_dots (place : Path) (steps : List String) :
    walk place (steps.filter (· != ".")) = walk place steps := by
  induction steps generalizing place with
  | nil => rfl
  | cons step steps ih =>
    by_cases hstep : step = "."
    · subst hstep
      exact ih place
    · rw [List.filter_cons_of_pos (by simpa using hstep)]
      exact ih (follow place step)

theorem walk_steps (place : Path) (text : String) :
    walk place (steps text) = walk place (names text) := by
  have hnames : names text = (((splitAtChar '/' text.toList).map String.ofList).filter
      (· != "")).filter (· != ".") := by
    rw [List.filter_filter, names]
    congr 1
    funext n
    rw [Bool.and_comm]
  rw [hnames, walk_filter_dots, steps, walk_append]
  split
  · rfl
  · rfl

theorem walk_entries {entries : Path} (h : ∀ name ∈ entries, IsEntry name) (place : Path) :
    walk place entries = place ++ entries := by
  induction entries generalizing place with
  | nil => exact (List.append_nil place).symm
  | cons name rest ih =>
    obtain ⟨hname, hrest⟩ := List.forall_mem_cons.1 h
    have hfollow : follow place name = place ++ [name] := by
      rw [follow, if_neg hname.ne_dot, if_neg hname.ne_dots]
    rw [walk, List.foldl_cons, hfollow]
    rw [← walk, ih hrest, List.append_assoc]
    rfl

end Path

namespace FileTree

open ExecutableUml.Path

variable {t : FileTree}

def destination (t : FileTree) (path : String) : Path := walk (t.start path) (names path)

/-- What a look-up needs at each name: it is not too long, and a directory is there unless it is the
last one. -/
theorem locateFrom_cons_eq_ok {place p : Path} {step : String} {steps : List String} :
    t.locateFrom place (step :: steps) = .ok p ↔
      (step = "." ∨ step = ".." ∨
        isTooLong step = false ∧ (steps = [] ∨ t.isDir (place ++ [step]) = true)) ∧
      t.locateFrom (follow place step) steps = .ok p := by
  rw [locateFrom, follow]
  by_cases hdot : step = "."
  · simp [hdot]
  · by_cases hdots : step = ".."
    · simp [hdots]
    · rw [if_neg hdot, if_neg hdots, if_neg hdot, if_neg hdots]
      cases isTooLong step with
      | true => simp [hdot, hdots]
      | false =>
        cases steps with
        | nil => simp
        | cons next steps => cases t.isDir (place ++ [step]) <;> simp [hdot, hdots]

theorem walk_of_locateFrom {place p : Path} {steps : List String}
    (h : t.locateFrom place steps = .ok p) : p = walk place steps := by
  induction steps generalizing place with
  | nil =>
    cases h
    rfl
  | cons step steps ih => exact ih (locateFrom_cons_eq_ok.1 h).2

theorem destination_of_locate {path : String} {p : Path} (h : t.locate path = .ok p) :
    p = t.destination path := by
  rw [locate] at h
  split at h
  · cases h
  · split at h
    · cases h
    · rw [destination, ← walk_steps]
      exact walk_of_locateFrom h

/-- A path that is joined to a directory starts where the directory does. -/
theorem start_join {dir name : String} (h : name.startsWith "/" = false) :
    t.start (join dir name) = t.start dir := by
  have hlonger : ∀ rest, dir ≠ "" → (dir ++ rest).startsWith "/" = dir.startsWith "/" := by
    intro rest hdir
    rw [Bool.eq_iff_iff, startsWith_slash_iff, startsWith_slash_iff, String.toList_append]
    cases hchars : dir.toList with
    | nil => exact absurd (String.toList_eq_nil_iff.1 hchars) hdir
    | cons c cs => rfl
  rw [join, start, start]
  split
  · rename_i hempty
    rw [String.isEmpty_iff.1 hempty, h]
    rfl
  · rename_i hdir
    rw [String.isEmpty_iff] at hdir
    split
    · rw [hlonger name hdir]
    · rw [String.append_assoc, hlonger _ hdir]

theorem destination_join {dir name : String} (h : name.startsWith "/" = false) :
    t.destination (join dir name) = walk (t.destination dir) (names name) := by
  rw [destination, start_join h, names_join, walk_append]
  rfl

end FileTree

end ExecutableUml
