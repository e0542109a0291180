import ExecutableUml.Proofs.Python.ClassMethods
import ExecutableUml.Proofs.Python.Docstrings
import ExecutableUml.Proofs.Text.LowerCase
import ExecutableUml.Python.AssociationModule

/-! The methods of an association class, and the lines that its text is read into. The texts of the
model that the module shows as they are have to be plain, or else they end lines and literals. -/

namespace ExecutableUml

open Text

namespace Python

section Getters

theorem paren_not_mem_getterName (m : Model) (id : ClassId) : '(' ∉ (getterName m id).toList := by
  have hword : '(' ∉ (identifier (classNameOf m id)).toList := fun hmem =>
    absurd ((identifier_isIdentifier (classNameOf m id)).wordChars _ hmem) (by decide)
  rw [getterName, String.toList_append, List.mem_append, not_or]
  refine ⟨by decide, ?_⟩
  rw [lower, String.toList_ofList]
  exact low_not_mem_lowerFrom (by decide) (by decide) hword []

theorem oneLine_getterName (m : Model) (id : ClassId) : OneLine (getterName m id) := by
  have hword := oneLine_of_wordChars (identifier_isIdentifier (classNameOf m id)).wordChars
  refine OneLine.append (by decide) ?_
  rw [OneLine, lower, String.toList_ofList]
  exact ⟨low_not_mem_lowerFrom (by decide) (by decide) hword.1 [],
    low_not_mem_lowerFrom (by decide) (by decide) hword.2 []⟩

/-- The getters are named after what they read, so only getters can have their names. -/
theorem getterName_ne {m : Model} {id : ClassId} {l : List Char} (h : l.head? ≠ some 'g') :
    getterName m id ≠ String.ofList l := by
  intro heq
  have hhead := congrArg (fun s => s.toList.head?) heq
  simp only [getterName, String.toList_append, @String.toList_ofList l] at hhead
  exact h hhead.symm

end Getters

section Bodies

variable {method : String}

theorem header?_docstring (text : String) : header? ("    " ++ docstring text) = none := by
  have hline : "    " ++ docstring text =
      String.ofList [' ', ' ', ' ', ' ', '"'] ++ ("\"\"" ++ text ++ "\"\"\"") := by
    rw [← String.toList_inj]
    simp [docstring]
  rw [hline]
  exact header?_of_differ (by decide) _

/-- The method that a getter named after a class calls in the place of the given method. -/
def replacement (source target method : String) : Option String :=
  if source = target then none
  else if target = method then some "get_to"
  else if source = method then some "get_from" else none

theorem replacement_eq_none_iff {source target : String} : replacement source target method = none ↔
    source = target ∨ source ≠ method ∧ target ≠ method := by
  rw [replacement]
  by_cases hsame : source = target
  · simp [hsame]
  · by_cases htarget : target = method
    · simp [htarget]
    · by_cases hsource : source = method <;> simp [hsame, htarget, hsource]

theorem replacement_eq_some {source target other : String}
    (h : replacement source target method = some other) :
    other = "get_to" ∨ other = "get_from" := by
  rw [replacement] at h
  split at h
  · cases h
  · split at h
    · exact Or.inl (Option.some.inj h).symm
    · split at h
      · exact Or.inr (Option.some.inj h).symm
      · cases h

def readLine (name : String) : String :=
  "        return self.get_attr(" ++ stringLiteral name ++ ")"

def callLine (method : String) : String := "        return self." ++ method ++ "()"

theorem callLine_source : callLine "get_from" = "        return self.get_from()" := rfl

theorem callLine_target : callLine "get_to" = "        return self.get_to()" := rfl

theorem bodyOf_namedGetters {source target : String} (hsource : '(' ∉ source.toList)
    (htarget : '(' ∉ target.toList) :
    bodyOf method (namedGetters source target) =
      (replacement source target method).map fun other => [callLine other] := by
  have hfrom : isBodyLine "        return self.get_from()" = true := isBodyLine_ofList (by decide)
  have hto : isBodyLine "        return self.get_to()" = true := isBodyLine_ofList (by decide)
  rw [namedGetters, replacement]
  split
  · rfl
  · rw [bodyOf_cons_of_plain header?_empty, bodyOf_short (header?_def hsource _) hfrom,
      bodyOf_cons_of_plain header?_empty, bodyOf_short (header?_def htarget _) hto, bodyOf]
    · by_cases ht : target = method
      · simp [ht, callLine_target]
      · by_cases hs : source = method <;> simp [ht, hs, callLine_source]
    · simp
    · rintro _ ⟨⟩
      exact isBodyLine_empty

theorem plain_associationHead (m : Model) (a : AssociationClass) :
    ∀ line ∈ associationHead m a, header? line = none := by
  simp only [associationHead, banner, List.cons_append, List.nil_append, List.forall_mem_cons]
  rw [@String.append_assoc "class "]
  refine ⟨header?_of_differ (by decide) _, header?_ofList (by decide), header?_ofList (by decide),
    header?_empty, header?_ofList (by decide), header?_empty, header?_ofList (by decide),
    header?_empty, header?_empty, header?_of_differ (by decide) _, header?_docstring _,
    header?_empty, header?_of_differ (by decide) _, header?_of_differ (by decide) _,
    header?_ofList (by decide), header?_of_differ (by decide) _, header?_empty, by simp⟩

theorem isBodyLine_initializerBody (m : Model) (a : AssociationClass) :
    ∀ line ∈ initializerBody m a, isBodyLine line = true := by
  have hown : ∀ line ∈ a.attributes.map attributeLine, isBodyLine line = true := by
    intro line hline
    obtain ⟨given, -, rfl⟩ := List.mem_map.1 hline
    have hstart : isBodyLine ("        self.set_attr(" ++ stringLiteral given.name) = true :=
      isBodyLine_append (by decide) _
    have hvalue := isBodyLine_concat (isBodyLine_concat hstart ", ") given.initializer
    exact isBodyLine_concat (isBodyLine_concat hvalue _) _
  simp only [initializerBody, List.forall_mem_append, List.forall_mem_cons, String.append_assoc]
  refine ⟨⟨⟨?_, ?_, ?_, ?_⟩, hown⟩, ?_, ?_⟩
  · exact isBodyLine_ofList (by decide)
  · exact isBodyLine_append (by decide) _
  · exact isBodyLine_append (by decide) _
  · simp
  · exact isBodyLine_append (by decide) _
  · simp

theorem isBodyLine_createLinkBody (m : Model) (a : AssociationClass) :
    ∀ line ∈ createLinkBody m a, isBodyLine line = true := by
  simp only [createLinkBody, List.forall_mem_cons, String.append_assoc]
  exact ⟨isBodyLine_append (by decide) _, isBodyLine_ofList (by decide),
    isBodyLine_ofList (by decide), isBodyLine_ofList (by decide), isBodyLine_append (by decide) _,
    isBodyLine_append (by decide) _, isBodyLine_ofList (by decide), isBodyLine_ofList (by decide),
    isBodyLine_append (by decide) _, isBodyLine_ofList (by decide), by simp⟩

theorem header?_initializer :
    header? "    def __init__(self, rt, id: Optional[str] = None):" = some "__init__" :=
  header?_ofList_eq_some (by decide) ⟨_, rfl⟩

theorem header?_createLink (rest : String) : header?
    ("    def create_link(cls, rt, from_inst: Any, to_inst: Any, **attrs: Any) -> Optional[\"" ++
      rest) = some "create_link" := by
  refine header?_concat (header?_ofList_eq_some (by decide) ?_) rest
  exact ⟨_, rfl⟩

theorem header?_source : header? "    def get_from(self) -> Any:" = some "get_from" :=
  header?_ofList_eq_some (by decide) ⟨_, rfl⟩

theorem header?_target : header? "    def get_to(self) -> Any:" = some "get_to" :=
  header?_ofList_eq_some (by decide) ⟨_, rfl⟩

/-- The methods of an association class. -/
theorem bodyOf_associationLines (m : Model) (a : AssociationClass) (method : String) :
    bodyOf method (associationLines m a) =
      (((((replacement (getterName m a.source) (getterName m a.target) method).map
        fun other => [callLine other]).or
        (if "get_to" = method then some [readLine (endAttribute m a.target)] else none)).or
        (if "get_from" = method then some [readLine (endAttribute m a.source)] else none)).or
        (if "create_link" = method then some (createLinkBody m a) else none)).or
        (if "__init__" = method then some (initializerBody m a) else none) := by
  have hgetters : ∀ line ∈ (namedGetters (getterName m a.source) (getterName m a.target)).head?,
      isBodyLine line = false := by
    rw [namedGetters]
    split
    · simp
    · rintro _ ⟨⟩
      exact isBodyLine_empty
  have hblank : ∀ lines : List String, ∀ line ∈ ("" :: lines).head?, isBodyLine line = false := by
    rintro lines _ ⟨⟩
    exact isBodyLine_empty
  have hread : ∀ name, isBodyLine ("        return self.get_attr(" ++ name ++ ")") = true :=
    fun name => isBodyLine_concat (isBodyLine_append (by decide) name) ")"
  have hclassmethod : header? "    @classmethod" = none := header?_ofList (by decide)
  rw [associationLines]
  simp only [List.append_assoc, List.cons_append, List.nil_append]
  rw [bodyOf_append_of_plain (plain_associationHead m a),
    bodyOf_method header?_initializer (isBodyLine_initializerBody m a) (hblank _),
    bodyOf_cons_of_plain header?_empty, bodyOf_cons_of_plain hclassmethod,
    @String.append_assoc _ a.pyName,
    bodyOf_method (header?_createLink _) (isBodyLine_createLinkBody m a) (hblank _),
    bodyOf_cons_of_plain header?_empty, bodyOf_short header?_source (hread _) (hblank _),
    bodyOf_cons_of_plain header?_empty, bodyOf_short header?_target (hread _) hgetters,
    bodyOf_namedGetters (paren_not_mem_getterName m _) (paren_not_mem_getterName m _)]
  rfl

end Bodies

/-- Text in characters that mean themselves inside a literal. -/
def Verbatim (s : String) : Prop := ∀ c ∈ s.toList, IsVerbatim c

/-- The texts of the model that the module of an association class shows as they are: names inside
docstrings, and types behind comment marks. The names of classes are in ASCII, which readers of the
code leave as it stands. -/
structure PlainlyShown (m : Model) (a : AssociationClass) : Prop where
  verbatim : ∀ s ∈ [a.relId, classNameOf m a.source, classNameOf m a.target], Verbatim s
  ascii : ∀ id ∈ [a.source, a.target], IsAscii (classNameOf m id)
  types : ∀ given ∈ a.attributes, ∀ c ∈ given.type.text.toList, 0x20 ≤ c.toNat

instance (s : String) : Decidable (Verbatim s) := List.decidableBAll _ s.toList

instance (m : Model) (a : AssociationClass) : Decidable (PlainlyShown m a) :=
  have (given : Attribute) : Decidable (∀ c ∈ given.type.text.toList, 0x20 ≤ c.toNat) :=
    List.decidableBAll _ given.type.text.toList
  decidable_of_iff
    ((∀ s ∈ [a.relId, classNameOf m a.source, classNameOf m a.target], Verbatim s) ∧
      (∀ id ∈ [a.source, a.target], IsAscii (classNameOf m id)) ∧
      ∀ given ∈ a.attributes, ∀ c ∈ given.type.text.toList, 0x20 ≤ c.toNat)
    ⟨fun h => ⟨h.1, h.2.1, h.2.2⟩, fun h => ⟨h.verbatim, h.ascii, h.types⟩⟩

section Verbatim

variable {s t : String} {named : String → Option Char}

theorem Verbatim.append (hs : Verbatim s) (ht : Verbatim t) : Verbatim (s ++ t) := by
  rw [Verbatim, String.toList_append]
  exact List.forall_mem_append.2 ⟨hs, ht⟩

theorem verbatim_ofList {l : List Char} (h : (l.all fun c => decide (IsVerbatim c)) = true) :
    Verbatim (String.ofList l) := by
  rw [Verbatim, String.toList_ofList]
  exact fun c hc => of_decide_eq_true (List.all_eq_true.1 h c hc)

theorem Verbatim.oneLine (h : Verbatim s) : OneLine s := oneLine_of_printed fun c hc => (h c hc).2.2

theorem docChars_of_verbatim {l : List Char} (h : ∀ c ∈ l, IsVerbatim c) : docChars l = l := by
  induction l with
  | nil => rfl
  | cons c l ih =>
    rw [List.forall_mem_cons] at h
    rw [docChars_cons h.1.2.1 (not_quotes_isPrefix h.1.1 l), ih h.2]

/-- A docstring of such a text is a literal that ends with it. -/
theorem Verbatim.denotes_docstring (h : Verbatim t) : Denotes named (docstring t) t := by
  have htext : docstringText t = t := by
    rw [← String.toList_inj, toList_docstringText, docChars_of_verbatim h]
  have hquotes : looseQuotes t.toList = 0 := by
    rw [looseQuotes, endRun]
    cases hlast : t.toList.reverse with
    | nil => rfl
    | cons c before =>
      have hc : c ≠ '"' := (h c (List.mem_reverse.1 (hlast ▸ List.mem_cons_self))).1
      rw [List.takeWhile_cons_of_neg (by simpa using hc)]
      rfl
  have hdenotes : Denotes named (docstring (docstringText t)) (String.ofList (newlines t.toList)) :=
    (denotes_docstring_iff t).2 ⟨fun hnull => absurd (h _ hnull).2.2 (by decide), hquotes⟩
  rwa [htext, newlines_of_no_return h.oneLine.2, String.ofList_toList] at hdenotes

end Verbatim

section Text

variable {m : Model} {a : AssociationClass}

theorem oneLine_attributeLine {given : Attribute} (h : OneLine given.type.text) :
    OneLine (attributeLine given) := by
  have hstart : OneLine ("        self.set_attr(" ++ stringLiteral given.name ++ ", ") :=
    (OneLine.append (oneLine_ofList (by decide)) (oneLine_stringLiteral _)).append (by decide)
  exact ((hstart.append (oneLine_initializer given)).append (by decide)).append h

theorem PlainlyShown.associationText (h : PlainlyShown m a) :
    Verbatim ("Association class for " ++ a.relId ++ ": " ++ classNameOf m a.source ++ " <-> " ++
      classNameOf m a.target ++ ".") := by
  have hrel : Verbatim ("Association class for " ++ a.relId) :=
    (verbatim_ofList (by decide)).append (h.verbatim _ (by simp))
  have hsource : Verbatim ("Association class for " ++ a.relId ++ ": " ++ classNameOf m a.source) :=
    (hrel.append (verbatim_ofList (by decide))).append (h.verbatim _ (by simp))
  exact ((hsource.append (verbatim_ofList (by decide))).append (h.verbatim _ (by simp))).append
    (verbatim_ofList (by decide))

theorem PlainlyShown.linkText (h : PlainlyShown m a) :
    Verbatim ("Creates the association instance and links both ends across " ++ a.relId ++ ".") :=
  ((verbatim_ofList (by decide)).append (h.verbatim a.relId (by simp))).append
    (verbatim_ofList (by decide))

theorem Verbatim.oneLine_docstring {t : String} (h : Verbatim t) : OneLine (docstring t) :=
  (OneLine.append (by decide) h.oneLine).append (by decide)

theorem oneLine_associationHead (hname : IsIdentifier a.pyName) (h : PlainlyShown m a) :
    ∀ line ∈ associationHead m a, OneLine line := by
  have hpy := oneLine_of_wordChars hname.wordChars
  simp only [associationHead, banner, List.cons_append, List.nil_append, List.forall_mem_cons]
  refine ⟨?_, oneLine_ofList (by decide), oneLine_ofList (by decide), by decide,
    oneLine_ofList (by decide), by decide, oneLine_ofList (by decide), by decide, by decide, ?_,
    OneLine.append (by decide) h.associationText.oneLine_docstring, by decide, ?_, ?_,
    oneLine_ofList (by decide), ?_, by decide, by simp⟩
  · exact OneLine.append (by decide) ((OneLine.append (by decide) hpy).append (by decide))
  · exact (OneLine.append (by decide) hpy).append (oneLine_ofList (by decide))
  · exact OneLine.append (by decide) (oneLine_stringLiteral _)
  · exact OneLine.append (by decide) (oneLine_stringLiteral _)
  · exact OneLine.append (by decide) (oneLine_stringLiteral _)

theorem oneLine_call {start close : List Char}
    (hstart : (start.all fun c => c != '\n' && c != '\r') = true)
    (hclose : (close.all fun c => c != '\n' && c != '\r') = true) (t : String) :
    OneLine (String.ofList start ++ stringLiteral t ++ String.ofList close) :=
  ((oneLine_ofList hstart).append (oneLine_stringLiteral t)).append (oneLine_ofList hclose)

theorem oneLine_initializerBody (h : PlainlyShown m a) :
    ∀ line ∈ initializerBody m a, OneLine line := by
  simp only [initializerBody, List.forall_mem_append, List.forall_mem_cons]
  refine ⟨⟨⟨oneLine_ofList (by decide), oneLine_call (by decide) (by decide) _,
    oneLine_call (by decide) (by decide) _, by simp⟩, ?_⟩, oneLine_call (by decide) (by decide) _,
    by simp⟩
  intro line hline
  obtain ⟨given, hgiven, rfl⟩ := List.mem_map.1 hline
  exact oneLine_attributeLine (oneLine_of_printed (h.types given hgiven))

theorem oneLine_createLinkBody (h : PlainlyShown m a) :
    ∀ line ∈ createLinkBody m a, OneLine line := by
  simp only [createLinkBody, List.forall_mem_cons]
  exact ⟨OneLine.append (by decide) h.linkText.oneLine_docstring, oneLine_ofList (by decide),
    oneLine_ofList (by decide), oneLine_ofList (by decide), oneLine_call (by decide) (by decide) _,
    oneLine_call (by decide) (by decide) _, oneLine_ofList (by decide), oneLine_ofList (by decide),
    oneLine_call (by decide) (by decide) _, oneLine_ofList (by decide), by simp⟩

theorem oneLine_namedGetters {source target : String} (hsource : OneLine source)
    (htarget : OneLine target) : ∀ line ∈ namedGetters source target, OneLine line := by
  rw [namedGetters]
  split
  · simp
  · simp only [List.forall_mem_cons]
    exact ⟨by decide, (OneLine.append (by decide) hsource).append (oneLine_ofList (by decide)),
      oneLine_ofList (by decide), by decide,
      (OneLine.append (by decide) htarget).append (oneLine_ofList (by decide)),
      oneLine_ofList (by decide), by simp⟩

theorem oneLine_associationLines (hname : IsIdentifier a.pyName) (h : PlainlyShown m a) :
    ∀ line ∈ associationLines m a, OneLine line := by
  simp only [associationLines, List.forall_mem_append, List.forall_mem_cons]
  refine ⟨⟨⟨⟨⟨⟨oneLine_associationHead hname h, oneLine_ofList (by decide), by simp⟩,
    oneLine_initializerBody h⟩, by decide, oneLine_ofList (by decide), ?_, by simp⟩,
    oneLine_createLinkBody h⟩, by decide, oneLine_ofList (by decide),
    oneLine_call (by decide) (by decide) _, by decide, oneLine_ofList (by decide),
    oneLine_call (by decide) (by decide) _, by simp⟩,
    oneLine_namedGetters (oneLine_getterName m _) (oneLine_getterName m _)⟩
  exact (OneLine.append (oneLine_ofList (by decide)) (oneLine_of_wordChars hname.wordChars)).append
    (by decide)

/-- The text of the module is read into the lines that were written. -/
theorem sourceLines_association (hname : IsIdentifier a.pyName) (h : PlainlyShown m a) :
    sourceLines (associationModule m a).text = associationLines m a ++ [""] :=
  Module.sourceLines_text (oneLine_associationLines hname h)

end Text

end Python

end ExecutableUml
