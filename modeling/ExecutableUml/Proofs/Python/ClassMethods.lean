import ExecutableUml.Proofs.Python.SourceLines
import ExecutableUml.Python.ClassModule

/-! The methods of a class in the generated code, read from its lines. A method starts with its
header and goes on as long as lines are indented further. Where a method is defined twice, the later
definition counts. -/

namespace ExecutableUml

namespace Text

theorem stripStart_append_of_differ {start l : List Char}
    (h : ((start.zip l).any fun p => p.1 != p.2) = true) (rest : List Char) :
    stripStart start (l ++ rest) = none := by
  induction start generalizing l with
  | nil => simp at h
  | cons p start ih =>
    cases l with
    | nil => simp at h
    | cons c l =>
      rw [List.cons_append, stripStart]
      split
      · rename_i hpc
        exact ih (by simpa [hpc] using h)
      · rfl

end Text

namespace Python

open Text

/-- The method that a line of a class starts to define. -/
def header? (line : String) : Option String := do
  let rest ← stripStart "    def ".toList line.toList
  let cut ← cutAtChar '(' rest
  return String.ofList cut.1

def isBodyLine (line : String) : Bool := startsWith "        ".toList line.toList

/-- The body of a method of a class. A later definition of the method replaces an earlier one. -/
def bodyOf (method : String) : List String → Option (List String)
  | [] => none
  | line :: lines =>
    (bodyOf method lines).or
      (if header? line = some method then some (lines.takeWhile isBodyLine) else none)

section Headers

variable {line own : String} {l name : List Char}

theorem toList_defMark : "    def ".toList = [' ', ' ', ' ', ' ', 'd', 'e', 'f', ' '] := rfl

theorem header?_of_differ
    (h : (([' ', ' ', ' ', ' ', 'd', 'e', 'f', ' '].zip l).any fun p => p.1 != p.2) = true)
    (rest : String) : header? (String.ofList l ++ rest) = none := by
  rw [header?, String.toList_append, @String.toList_ofList l, toList_defMark,
    stripStart_append_of_differ h]
  rfl

theorem header?_ofList
    (h : (([' ', ' ', ' ', ' ', 'd', 'e', 'f', ' '].zip l).any fun p => p.1 != p.2) = true) :
    header? (String.ofList l) = none := by
  have hline := header?_of_differ h ""
  rwa [String.append_empty] at hline

theorem header?_empty : header? "" = none := rfl

theorem header?_eq_some_iff : header? line = some own ↔
    '(' ∉ own.toList ∧
      ∃ after, line.toList = "    def ".toList ++ (own.toList ++ '(' :: after) := by
  rw [header?]
  constructor
  · intro h
    obtain ⟨rest, hrest, h⟩ := Option.bind_eq_some_iff.1 h
    obtain ⟨cut, hcut, h⟩ := Option.bind_eq_some_iff.1 h
    cases h
    rw [String.toList_ofList]
    refine ⟨not_mem_of_cutAtChar hcut, cut.2, ?_⟩
    rw [stripStart_eq_some_iff.1 hrest, ← cutAtChar_eq_some hcut]
  · rintro ⟨hparen, after, hline⟩
    rw [stripStart_eq_some_iff.2 hline]
    simp [cutAtChar_append hparen]

/-- What stands behind the parameters does not matter. -/
theorem header?_concat (h : header? line = some own) (rest : String) :
    header? (line ++ rest) = some own := by
  obtain ⟨hparen, after, hline⟩ := header?_eq_some_iff.1 h
  refine header?_eq_some_iff.2 ⟨hparen, after ++ rest.toList, ?_⟩
  rw [String.toList_append, hline]
  simp

theorem header?_def (h : '(' ∉ own.toList) (after : List Char) :
    header? ("    def " ++ own ++ String.ofList ('(' :: after)) = some own := by
  refine header?_eq_some_iff.2 ⟨h, after, ?_⟩
  rw [String.toList_append, String.toList_append, @String.toList_ofList ('(' :: after),
    List.append_assoc]

theorem header?_ofList_eq_some (h : '(' ∉ name)
    (hl : ∃ after, l = [' ', ' ', ' ', ' ', 'd', 'e', 'f', ' '] ++ (name ++ '(' :: after)) :
    header? (String.ofList l) = some (String.ofList name) := by
  obtain ⟨after, hafter⟩ := hl
  refine header?_eq_some_iff.2 ⟨by rwa [String.toList_ofList], after, ?_⟩
  rw [toList_defMark, @String.toList_ofList l, String.toList_ofList, hafter]

theorem isBodyLine_concat (h : isBodyLine line = true) (rest : String) :
    isBodyLine (line ++ rest) = true := by
  rw [isBodyLine, startsWith_iff, String.toList_append]
  exact (startsWith_iff.1 h).trans (List.prefix_append _ _)

theorem isBodyLine_ofList (h : startsWith [' ', ' ', ' ', ' ', ' ', ' ', ' ', ' '] l = true) :
    isBodyLine (String.ofList l) = true := by
  rw [isBodyLine, @String.toList_ofList l]
  exact h

theorem isBodyLine_append (h : startsWith [' ', ' ', ' ', ' ', ' ', ' ', ' ', ' '] l = true)
    (rest : String) : isBodyLine (String.ofList l ++ rest) = true :=
  isBodyLine_concat (isBodyLine_ofList h) rest

theorem isBodyLine_empty : isBodyLine "" = false := rfl

theorem header?_of_isBodyLine (h : isBodyLine line = true) : header? line = none := by
  obtain ⟨rest, hrest⟩ := startsWith_iff.1 h
  have hline : line = "        " ++ String.ofList rest := by
    rw [← String.toList_inj, ← hrest]
    simp
  rw [hline]
  exact header?_of_differ (by decide) _

theorem filterMap_header?_body {body : List String} (h : ∀ line ∈ body, isBodyLine line = true) :
    body.filterMap header? = [] :=
  List.filterMap_eq_nil_iff.2 fun line hline => header?_of_isBodyLine (h line hline)

theorem isBodyLine_actionBody (scope : Action.Scope) (origins : List (String × String))
    (location action : String) :
    ∀ line ∈ (actionBody scope origins bodyIndent location action).lines,
      isBodyLine line = true := by
  intro line hline
  rw [actionBody] at hline
  split at hline
  · cases hline
  · obtain ⟨l, -, rfl⟩ := List.mem_map.1 hline
    rw [Action.Line.render]
    exact isBodyLine_concat (isBodyLine_append (by decide) _) _

end Headers

section Sources

def headers (source : String) : List String := (sourceLines source).filterMap header?

theorem headers_of_oneLine {line : String} (h : OneLine line) :
    headers line = (header? line).toList := by
  rw [headers, sourceLines, newlines_of_no_return h.2, splitAtChar_of_not_mem h.1,
    List.map_singleton, String.ofList_toList, List.filterMap_cons, List.filterMap_nil]
  cases header? line <;> rfl

/-- A line feed behind a source ends its last line, or goes with a carriage return that does. -/
theorem headers_append_feed (a b : String) :
    headers (a ++ "\n" ++ b) = headers a ++ headers b := by
  have hfeed : (a ++ "\n" ++ b).toList = a.toList ++ '\n' :: b.toList := by simp
  have hsplit : ∀ s t : List Char,
      ((splitAtChar '\n' (s ++ '\n' :: t)).map String.ofList).filterMap header? =
        ((splitAtChar '\n' s).map String.ofList).filterMap header? ++
          ((splitAtChar '\n' t).map String.ofList).filterMap header? := fun s t => by
    rw [splitAtChar_append, List.map_append, List.filterMap_append]
  simp only [headers, sourceLines, hfeed]
  by_cases hend : a.toList.getLast? = some '\r'
  · obtain ⟨front, hfront⟩ := List.getLast?_eq_some_iff.1 hend
    have hreturn : newlines ['\r'] = '\n' :: [] := by decide
    have hboth : newlines ('\r' :: '\n' :: b.toList) = '\n' :: newlines b.toList := by
      rw [newlines, if_pos rfl, if_pos (by simp), newlines_cons (by decide)]
    rw [hfront, List.append_assoc, List.singleton_append, newlines_append (Or.inr (by simp)), hboth,
      newlines_append (Or.inr (by simp)), hreturn, hsplit, hsplit]
    simp [splitAtChar, header?_empty]
  · rw [newlines_append (Or.inl hend), newlines_cons (by decide), hsplit]

theorem headers_text (m : Module) : headers m.text = m.lines.flatMap headers := by
  obtain ⟨lines, notes⟩ := m
  induction lines with
  | nil => rfl
  | cons line lines ih =>
    have hrest : headers (String.join (lines.map (· ++ "\n"))) = lines.flatMap headers := ih
    rw [Module.text, List.map_cons, String.join_cons, headers_append_feed, hrest, List.flatMap_cons]

theorem headers_text_of_oneLine {m : Module} (h : ∀ line ∈ m.lines, OneLine line) :
    headers m.text = m.lines.filterMap header? := by
  rw [headers_text, List.filterMap_eq_flatMap_toList]
  exact List.flatMap_congr fun line hline => headers_of_oneLine (h line hline)

end Sources

section Bodies

variable {method own header line : String} {lines body : List String}

theorem bodyOf_cons_of_plain (h : header? line = none) (lines : List String) :
    bodyOf method (line :: lines) = bodyOf method lines := by
  rw [bodyOf, h, if_neg (by simp), Option.or_none]

theorem bodyOf_append_of_plain (h : ∀ line ∈ body, header? line = none) (lines : List String) :
    bodyOf method (body ++ lines) = bodyOf method lines := by
  induction body with
  | nil => rfl
  | cons line body ih =>
    rw [List.forall_mem_cons] at h
    rw [List.cons_append, bodyOf_cons_of_plain h.1, ih h.2]

/-- A method in the lines of a class counts unless it is defined again. -/
theorem bodyOf_method (hheader : header? header = some own)
    (hbody : ∀ line ∈ body, isBodyLine line = true)
    (hlines : ∀ line ∈ lines.head?, isBodyLine line = false) :
    bodyOf method (header :: (body ++ lines)) =
      (bodyOf method lines).or (if own = method then some body else none) := by
  have htake : (body ++ lines).takeWhile isBodyLine = body := by
    rw [List.takeWhile_append_of_pos hbody]
    cases lines with
    | nil => rw [List.takeWhile_nil, List.append_nil]
    | cons line lines =>
      rw [List.takeWhile_cons_of_neg (by simp [hlines line rfl]), List.append_nil]
  rw [bodyOf, htake, hheader,
    bodyOf_append_of_plain fun line hline => header?_of_isBodyLine (hbody line hline)]
  simp only [Option.some.injEq]

theorem bodyOf_short (hheader : header? header = some own) (hline : isBodyLine line = true)
    (hlines : ∀ line ∈ lines.head?, isBodyLine line = false) :
    bodyOf method (header :: line :: lines) =
      (bodyOf method lines).or (if own = method then some [line] else none) := by
  have hbody : bodyOf method (header :: ([line] ++ lines)) =
      (bodyOf method lines).or (if own = method then some [line] else none) :=
    bodyOf_method hheader (List.forall_mem_singleton.2 hline) hlines
  exact hbody

theorem bodyOf_eq_none_iff : bodyOf method lines = none ↔ method ∉ lines.filterMap header? := by
  induction lines with
  | nil => simp [bodyOf]
  | cons line lines ih =>
    rw [bodyOf, Option.or_eq_none_iff, ih, List.filterMap_cons]
    cases hheader : header? line with
    | none => simp
    | some own =>
      rw [List.mem_cons, not_or, and_comm]
      by_cases hown : own = method
      · simp [hown]
      · simp [hown, Ne.symm hown]

/-- An empty line at the end belongs to no method. -/
theorem bodyOf_concat_empty (method : String) (lines : List String) :
    bodyOf method (lines ++ [""]) = bodyOf method lines := by
  have htake : ∀ rest : List String,
      (rest ++ [""]).takeWhile isBodyLine = rest.takeWhile isBodyLine := by
    intro rest
    induction rest with
    | nil => rfl
    | cons line rest ih => rw [List.cons_append, List.takeWhile_cons, List.takeWhile_cons, ih]
  induction lines with
  | nil => rfl
  | cons line lines ih => rw [List.cons_append, bodyOf, bodyOf, ih, htake]

end Bodies

end Python

end ExecutableUml
