import ExecutableUml.Proofs.Python.Names

/-! The names of classes in the code are identifiers: what a name is made of is replaced, a digit
in front and a keyword are avoided, and a number behind an underscore keeps all of that. A class
has the identifier made from its own name unless a class before it took that in any case. -/

namespace ExecutableUml

open Text

namespace Python

structure IsIdentifier (name : String) : Prop where
  ne_empty : name ≠ ""
  wordChars : ∀ c ∈ name.toList, isWordChar c = true
  start : ∀ c ∈ name.toList.head?, c.isDigit = false
  not_keyword : name ∉ keywords

theorem keyword_no_underscore {word : String} (h : word ∈ keywords) : '_' ∉ word.toList := by
  have hall : (keywords.all fun w => !w.toList.contains '_') = true := by decide +kernel
  simpa using List.all_eq_true.1 hall word h

theorem not_keyword_of_underscore {word : String} (h : '_' ∈ word.toList) : word ∉ keywords :=
  fun hword => keyword_no_underscore hword h

theorem isWordChar_of_mem_replaced {cs : List Char} {c : Char}
    (h : c ∈ cs.map fun c => if isWordChar c then c else '_') : isWordChar c = true := by
  obtain ⟨d, -, rfl⟩ := List.mem_map.1 h
  split
  · assumption
  · decide

theorem withWordStart_ne_nil (cs : List Char) : withWordStart cs ≠ [] := by
  unfold withWordStart
  split
  · simp
  · split <;> simp

theorem isWordChar_withWordStart {cs : List Char} (h : ∀ c ∈ cs, isWordChar c = true) :
    ∀ c ∈ withWordStart cs, isWordChar c = true := by
  unfold withWordStart
  split
  · exact List.all_eq_true.1 (by decide)
  · split
    · exact List.forall_mem_cons.2 ⟨by decide, h⟩
    · exact h

theorem head_withWordStart (cs : List Char) :
    ∀ c ∈ (withWordStart cs).head?, c.isDigit = false := by
  intro c hc
  unfold withWordStart at hc
  split at hc
  · cases hc
    decide
  · split at hc
    · cases hc
      decide
    · rename_i hdigit
      cases hc
      simpa using hdigit

/-- Something behind an underscore, in characters of words, keeps a text usable as a name. -/
theorem isIdentifier_append_underscore {word : String} (rest : String) (hne : word ≠ "")
    (hword : ∀ c ∈ word.toList, isWordChar c = true)
    (hstart : ∀ c ∈ word.toList.head?, c.isDigit = false)
    (hrest : ∀ c ∈ rest.toList, isWordChar c = true) : IsIdentifier (word ++ "_" ++ rest) where
  ne_empty := by simp [hne]
  wordChars := by
    simp only [String.toList_append, List.forall_mem_append]
    exact ⟨⟨hword, List.all_eq_true.1 (by decide)⟩, hrest⟩
  start := by
    have hhead : (word ++ "_" ++ rest).toList.head? = word.toList.head? := by
      rw [String.toList_append, String.toList_append, List.append_assoc, List.head?_append]
      cases hlist : word.toList with
      | nil => exact absurd (String.toList_eq_nil_iff.1 hlist) hne
      | cons c cs => rfl
    rw [hhead]
    exact hstart
  not_keyword := not_keyword_of_underscore (by simp)

theorem identifier_isIdentifier (name : String) : IsIdentifier (identifier name) := by
  unfold identifier
  generalize hcs : (trim name.toList).map (fun c => if isWordChar c then c else '_') = cs
  have hchars : ∀ c ∈ (String.ofList (withWordStart cs)).toList, isWordChar c = true := by
    rw [String.toList_ofList]
    exact isWordChar_withWordStart fun c hc => isWordChar_of_mem_replaced (hcs ▸ hc)
  have hstart : ∀ c ∈ (String.ofList (withWordStart cs)).toList.head?, c.isDigit = false := by
    rw [String.toList_ofList]
    exact head_withWordStart cs
  have hne : String.ofList (withWordStart cs) ≠ "" := fun h =>
    withWordStart_ne_nil cs (by simpa using congrArg String.toList h)
  dsimp only
  split
  · simpa using isIdentifier_append_underscore "" hne hchars hstart (by simp)
  · rename_i hkeyword
    exact ⟨hne, hchars, hstart, by simpa using hkeyword⟩

theorem isWordChar_toString (n : Nat) : ∀ c ∈ (toString n).toList, isWordChar c = true := by
  intro c hc
  have hdigits : c ∈ Nat.toDigits 10 n := by simpa [toString, Nat.toList_repr] using hc
  exact of_isDigit (P := fun c => isWordChar c = true) (by decide)
    (Nat.isDigit_of_mem_toDigits (by decide) (by decide) hdigits)

/-- What forms of a name are called: as long as the count of them is exact, the number is one of
digits. -/
theorem numbered_eq (base : String) {k : Nat} (hk : k + 1 < 2 ^ 31) :
    numbered base k = if k = 0 then base else base ++ "_" ++ toString (k + 1) := by
  rw [numbered, formNumber_of_lt hk]
  rfl

theorem numbered_isIdentifier {base : String} (h : IsIdentifier base) {k : Nat}
    (hk : k + 1 < 2 ^ 31) : IsIdentifier (numbered base k) := by
  rw [numbered_eq base hk]
  split
  · exact h
  · exact isIdentifier_append_underscore _ h.ne_empty h.wordChars h.start (isWordChar_toString _)

/-- Whatever the number is, no other characters come in than those of numbers. -/
theorem mem_numbered {base : String} {k : Nat} {c : Char} (h : c ∈ (numbered base k).toList) :
    c ∈ base.toList ∨ c = '_' ∨ isNumeralChar c = true := by
  cases k with
  | zero => exact Or.inl h
  | succ k =>
    rw [toList_numbered_succ, List.mem_append, List.mem_cons] at h
    exact h.imp_right (Or.imp_right isNumeralChar_of_mem_repr)

theorem FirstFree.congr {key : String → String} {taken taken' : List String} {base : String}
    {k : Nat} (h : FirstFree key taken base k) (hmem : ∀ name, name ∈ taken ↔ name ∈ taken') :
    FirstFree key taken' base k :=
  ⟨fun hfree => h.1 ((hmem _).2 hfree), fun j hj => (hmem _).1 (h.2 j hj)⟩

/-- Every name gets the first form of its identifier that is free, given what was taken before and
the names given out up to then. The search tries no more forms than there are such names. -/
theorem namesFrom_firstFree (taken : List String) {names : List String} {i : Nat} {name : String}
    (h : names[i]? = some name) :
    ∃ k ≤ taken.length + i,
      FirstFree lower (taken ++ ((namesFrom taken names).take i).map lower) (identifier name) k ∧
      (namesFrom taken names)[i]? = some (numbered (identifier name) k) := by
  induction names generalizing taken i with
  | nil => simp at h
  | cons first names ih =>
    rw [namesFrom]
    cases i with
    | zero =>
      obtain rfl : first = name := by simpa using h
      obtain ⟨k, hk, hfirst⟩ :=
        exists_firstFree lower (lower_numbered_injective (identifier first)) taken
      exact ⟨k, hk, by simpa using hfirst, by simp [freeName_of_firstFree hfirst hk]⟩
    | succ i =>
      obtain ⟨k, hk, hfirst, hgiven⟩ := ih
        (lower (freeName lower taken (identifier first)) :: taken) (by simpa using h)
      rw [List.length_cons] at hk
      refine ⟨k, by omega, hfirst.congr fun name => ?_, by simpa using hgiven⟩
      simp only [List.take_succ_cons, List.map_cons, List.mem_append, List.mem_cons]
      tauto

/-- A name that was given out is a form of an identifier, numbered below the count of names. -/
theorem exists_form_of_mem_namesFrom {names : List String} {name : String}
    (h : name ∈ namesFrom [] names) :
    ∃ first, ∃ k < names.length, name = numbered (identifier first) k := by
  obtain ⟨i, hi, rfl⟩ := List.mem_iff_getElem.1 h
  have hi' : i < names.length := by rwa [length_namesFrom] at hi
  obtain ⟨k, hk, -, hgiven⟩ := namesFrom_firstFree [] (List.getElem?_eq_getElem hi')
  rw [List.getElem?_eq_getElem hi] at hgiven
  rw [List.length_nil, Nat.zero_add] at hk
  exact ⟨names[i], k, Nat.lt_of_le_of_lt hk hi', Option.some.inj hgiven⟩

end Python

namespace Model

def classNames (m : Model) : List String :=
  m.classes.map (fun c => c.name) ++ m.associations.map AssociationClass.name

def codeNames (m : Model) : List String :=
  m.classes.map Class.pyName ++ m.associations.map AssociationClass.pyName

theorem codeNames_ofDocument (doc : Json) :
    (ofDocument doc).codeNames = Python.distinctNames (ofDocument doc).classNames :=
  pyNames_ofDocument doc

theorem codeNames_isIdentifier (doc : Json)
    (hfew : (ofDocument doc).classNames.length < 2 ^ 31 - 2) :
    ∀ name ∈ (ofDocument doc).codeNames, Python.IsIdentifier name := by
  rw [codeNames_ofDocument]
  intro name hname
  obtain ⟨first, k, hk, rfl⟩ := Python.exists_form_of_mem_namesFrom hname
  exact Python.numbered_isIdentifier (Python.identifier_isIdentifier first) (by omega)

/-- The names in the code, and the search that finds them. With fewer than `2 ^ 31 - 2` names taken
it ends where the count of the forms is still exact. No two names are equal in lower case, all are
identifiers, and each is the first free form of the identifier made from the name in the model,
which is that identifier itself unless it is taken. -/
theorem ofDocument_codeNames (doc : Json)
    (hfew : (ofDocument doc).classNames.length < 2 ^ 31 - 2) :
    (∀ (taken : List String) (base : String), taken.length < 2 ^ 31 - 2 →
      ∃ k ≤ taken.length, Python.FirstFree lower taken base k ∧
        Python.numbered base k = if k = 0 then base else base ++ "_" ++ toString (k + 1)) ∧
    (ofDocument doc).codeNames.length = (ofDocument doc).classNames.length ∧
    ((ofDocument doc).codeNames.map lower).Nodup ∧
    (∀ name ∈ (ofDocument doc).codeNames, Python.IsIdentifier name) ∧
    ∀ (i : Nat) (name : String), (ofDocument doc).classNames[i]? = some name →
      (∃ k ≤ i, Python.FirstFree lower (((ofDocument doc).codeNames.take i).map lower)
          (Python.identifier name) k ∧
        (ofDocument doc).codeNames[i]? = some (Python.numbered (Python.identifier name) k)) ∧
      (lower (Python.identifier name) ∉ ((ofDocument doc).codeNames.take i).map lower →
        (ofDocument doc).codeNames[i]? = some (Python.identifier name)) := by
  refine ⟨fun taken base htaken => ?_, ?_, pyNames_nodup doc, codeNames_isIdentifier doc hfew,
    fun i name hname => ?_⟩
  · obtain ⟨k, hk, hfirst⟩ :=
      Python.exists_firstFree lower (Python.lower_numbered_injective base) taken
    exact ⟨k, hk, hfirst, Python.numbered_eq base (by omega)⟩
  · rw [codeNames_ofDocument, Python.distinctNames, Python.length_namesFrom]
  · obtain ⟨k, hk, hfirst, hgiven⟩ := Python.namesFrom_firstFree [] hname
    rw [← Python.distinctNames, ← codeNames_ofDocument, List.nil_append] at hfirst
    rw [← Python.distinctNames, ← codeNames_ofDocument] at hgiven
    rw [List.length_nil, Nat.zero_add] at hk
    refine ⟨⟨k, hk, hfirst, hgiven⟩, fun hfree => ?_⟩
    -- the form numbered zero is the identifier itself, so the search ends there
    cases k with
    | zero => rwa [Python.numbered_zero] at hgiven
    | succ k =>
      have htaken := hfirst.2 0 (Nat.succ_pos k)
      rw [Python.numbered_zero] at htaken
      exact absurd htaken hfree

/-- The second class is numbered, and what it is called then is the identifier of the third. -/
def orderDocument : Json := .object [
  ("model", .array [
    .object [("class_name", .string "Order Item")],
    .object [("class_name", .string "order-item")],
    .object [("class_name", .string "Order_Item_2")]])]

theorem order_codeNames :
    (ofDocument orderDocument).classNames.length < 2 ^ 31 - 2 ∧
    (∀ name ∈ (ofDocument orderDocument).codeNames, Python.IsIdentifier name) ∧
    (∃ k ≤ 2, Python.FirstFree lower ["order_item", "order_item_2"] "order_item" k ∧
      Python.numbered "order_item" k =
        if k = 0 then "order_item" else "order_item" ++ "_" ++ toString (k + 1)) ∧
    (ofDocument orderDocument).classNames[0]? = some "Order Item" ∧
    (ofDocument orderDocument).codeNames[0]? = some (Python.identifier "Order Item") ∧
    (ofDocument orderDocument).classNames[2]? = some "Order_Item_2" ∧
    (∃ k ≤ 2, Python.FirstFree lower (((ofDocument orderDocument).codeNames.take 2).map lower)
        (Python.identifier "Order_Item_2") k ∧
      (ofDocument orderDocument).codeNames[2]? =
        some (Python.numbered (Python.identifier "Order_Item_2") k)) ∧
    (ofDocument orderDocument).codeNames = ["Order_Item", "order_item_2", "Order_Item_2_2"] := by
  have hfew : (ofDocument orderDocument).classNames.length < 2 ^ 31 - 2 := by decide +kernel
  obtain ⟨hsearch, -, -, hidentifiers, hall⟩ := ofDocument_codeNames orderDocument hfew
  have hfirst : (ofDocument orderDocument).classNames[0]? = some "Order Item" := by decide +kernel
  have hthird : (ofDocument orderDocument).classNames[2]? = some "Order_Item_2" := by decide +kernel
  exact ⟨hfew, hidentifiers, hsearch ["order_item", "order_item_2"] "order_item" (by decide),
    hfirst, (hall 0 _ hfirst).2 (by simp), hthird, (hall 2 _ hthird).1, by decide +kernel⟩

end Model

end ExecutableUml
