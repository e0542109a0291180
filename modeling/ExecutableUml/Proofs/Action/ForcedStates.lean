import ExecutableUml.Action.Body
import ExecutableUml.Proofs.Python.LiteralReader
import Mathlib.Logic.Basic

/-! The state that an event of the owner forces. Its name is put between single quotes as it stands,
so the literal denotes it exactly when every character between the quotes denotes itself: an escape
is longer than what it denotes, and a quote in the name closes the literal too early. -/

namespace ExecutableUml

namespace Python

variable {named : String → Option Char}

/-- Every backslash has a character behind it with which it starts no escape. -/
def plainBackslashes : List Char → Bool
  | [] => true
  | c :: s => (c != '\\' || s.head?.any fun d => !startsEscape d) && plainBackslashes s

/-- Between single quotes the text denotes itself. -/
def DenotesItself (s : List Char) : Prop :=
  plainBackslashes s = true ∧ ∀ c ∈ s, c ≠ '\'' ∧ c ≠ '\n' ∧ c ≠ '\r' ∧ c ≠ '\x00'

instance (s : List Char) : Decidable (DenotesItself s) :=
  @instDecidableAnd _ _ _ (List.decidableBAll _ s)

theorem plainBackslashes_cons {c : Char} {s : List Char} (h : plainBackslashes (c :: s) = true) :
    (c = '\\' → ∃ d ∈ s.head?, startsEscape d = false) ∧ plainBackslashes s = true := by
  simp only [plainBackslashes, Bool.and_eq_true, Bool.or_eq_true, bne_iff_ne] at h
  refine ⟨fun hc => ?_, h.2⟩
  obtain ⟨d, hd, hstarts⟩ := (Option.any_eq_true ..).1 (h.1.resolve_left (absurd hc))
  exact ⟨d, hd, by simpa using hstarts⟩

/-- What a literal denotes is no longer than its inside, and as long only if it is the same text. -/
theorem unescape_length {s text : List Char} (h : unescape named s = some text) :
    text.length ≤ s.length ∧
      (text.length = s.length → text = s ∧ plainBackslashes s = true) := by
  fun_induction unescape named s generalizing text with
  | case1 =>
    cases h
    exact ⟨Nat.le_refl 0, fun _ => ⟨rfl, rfl⟩⟩
  | case2 s w rest hescape ih =>
    obtain ⟨t, ht, rfl⟩ := Option.map_eq_some_iff.1 h
    obtain ⟨hle, heq⟩ := ih ht
    cases s with
    | nil => cases hescape
    | cons d s =>
      rcases escape_cases hescape with ⟨-, hw, hsuffix⟩ | ⟨hstarts, rfl, rfl⟩
      · have hrest := hsuffix.length_le
        simp only [List.length_append, List.length_cons]
        exact ⟨by omega, fun h => by omega⟩
      · have hd : d ≠ '\\' := by
          rintro rfl
          cases hstarts
        refine ⟨by simpa using hle, fun h => ?_⟩
        obtain ⟨rfl, hplain⟩ := heq (by simpa using h)
        exact ⟨rfl, by simp [plainBackslashes, hstarts, hd, hplain]⟩
  | case3 s hescape => cases h
  | case4 c s hc ih =>
    obtain ⟨t, ht, rfl⟩ := Option.map_eq_some_iff.1 h
    obtain ⟨hle, heq⟩ := ih ht
    refine ⟨Nat.succ_le_succ hle, fun h => ?_⟩
    obtain ⟨rfl, hplain⟩ := heq (by simpa using h)
    exact ⟨rfl, by simp [plainBackslashes, hc, hplain]⟩

theorem unescape_of_plain {s : List Char} (h : plainBackslashes s = true) :
    unescape named s = some s := by
  fun_induction unescape named s with
  | case1 => rfl
  | case2 s w rest hescape ih =>
    obtain ⟨hstart, htail⟩ := plainBackslashes_cons h
    obtain ⟨d, hd, hstarts⟩ := hstart rfl
    obtain ⟨s, rfl⟩ := List.head?_eq_some_iff.1 hd
    rw [escape_of_not_startsEscape hstarts] at hescape
    cases hescape
    rw [ih (plainBackslashes_cons htail).2]
    rfl
  | case3 s hescape =>
    obtain ⟨hstart, -⟩ := plainBackslashes_cons h
    obtain ⟨d, hd, hstarts⟩ := hstart rfl
    obtain ⟨s, rfl⟩ := List.head?_eq_some_iff.1 hd
    rw [escape_of_not_startsEscape hstarts] at hescape
    cases hescape
  | case4 c s hc ih =>
    rw [ih (plainBackslashes_cons h).2]
    rfl

def singleQuote : QuoteMark := ⟨'\'', false⟩

/-- A quote or a line end inside a literal stands behind a backslash, and this starts an escape. -/
theorem inside_chars {escaped : Bool} {s raw rest : List Char}
    (h : singleQuote.inside escaped s = some (raw, rest)) (hplain : plainBackslashes raw = true)
    (hstate : escaped = true → ∀ d ∈ raw.head?, startsEscape d = false) :
    ∀ c ∈ raw, c ≠ '\'' ∧ c ≠ '\n' := by
  induction s generalizing escaped raw with
  | nil => cases h
  | cons c s ih =>
    cases escaped with
    | true =>
      rw [QuoteMark.inside_escaped] at h
      obtain ⟨r, hr, heq⟩ := Option.map_eq_some_iff.1 h
      cases heq
      have hstarts := hstate rfl c rfl
      refine List.forall_mem_cons.2 ⟨⟨?_, ?_⟩, ih hr (plainBackslashes_cons hplain).2 (by simp)⟩
      · rintro rfl
        cases hstarts
      · rintro rfl
        cases hstarts
    | false =>
      rcases QuoteMark.inside_cases h with ⟨rfl, -⟩ | ⟨hopen, hline, raw', rfl, hr⟩
      · simp
      · obtain ⟨hstart, htail⟩ := plainBackslashes_cons hplain
        refine List.forall_mem_cons.2 ⟨⟨?_, ?_⟩, ih hr htail fun hc d hd => ?_⟩
        · rintro rfl
          exact hopen (List.prefix_append ['\''] s)
        · rintro rfl
          cases hline rfl
        · obtain ⟨e, he, hstarts⟩ := hstart (by simpa using hc)
          rwa [Option.mem_unique hd he]

theorem inside_of_chars {escaped : Bool} {s : List Char} (hplain : plainBackslashes s = true)
    (hchars : ∀ c ∈ s, c ≠ '\'' ∧ c ≠ '\n') (hstate : escaped = true → s ≠ []) (rest : List Char) :
    singleQuote.inside escaped (s ++ '\'' :: rest) = some (s, rest) := by
  induction s generalizing escaped with
  | nil =>
    cases escaped with
    | true => exact absurd rfl (hstate rfl)
    | false => exact singleQuote.inside_close rest
  | cons c s ih =>
    obtain ⟨⟨hquote, hline⟩, htail⟩ := List.forall_mem_cons.1 hchars
    obtain ⟨hstart, hplain'⟩ := plainBackslashes_cons hplain
    cases escaped with
    | true =>
      rw [List.cons_append, QuoteMark.inside_escaped, ih hplain' htail (by simp)]
      rfl
    | false =>
      have hgoes : (c == '\\') = true → s ≠ [] := by
        rintro hc rfl
        obtain ⟨d, hd, -⟩ := hstart (by simpa using hc)
        cases hd
      rw [List.cons_append,
        QuoteMark.inside_cons (QuoteMark.not_text_isPrefix hquote _) fun h => absurd h hline,
        ih hplain' htail hgoes]
      rfl

theorem newlines_singleQuoted (s : List Char) :
    newlines ('\'' :: (s ++ ['\''])) = '\'' :: (newlines s ++ ['\'']) := by
  rw [newlines_cons (by decide), newlines_append (Or.inr (by decide))]
  rfl

/-- The inside of a literal that denotes the text between its quotes is that text. -/
theorem inside_of_denotes {s raw : List Char} {m : QuoteMark} {source : List Char}
    (hopen : QuoteMark.opening ('\'' :: (newlines s ++ ['\''])) = some (m, source))
    (hclose : m.inside false source = some (raw, [])) (hlength : s.length ≤ raw.length) :
    m = singleQuote ∧ raw = newlines s := by
  have hshort := length_newlines_le s
  by_cases hlong : ['\'', '\''] <+: newlines s ++ ['\'']
  · -- three quotes in front open a long literal, and what is left for its inside is too short
    obtain ⟨after, hafter⟩ := hlong
    rw [← hafter] at hopen
    obtain ⟨rfl, rfl⟩ := Prod.mk.inj
      (Option.some.inj (hopen.symm.trans (QuoteMark.opening_long (Or.inr rfl) after)))
    have hsource := QuoteMark.inside_eq_some hclose
    have hcount := congrArg List.length hafter
    have hcount' := congrArg List.length hsource
    simp [QuoteMark.text] at hcount hcount'
    omega
  · rw [QuoteMark.opening_short (Or.inr rfl) hlong] at hopen
    obtain ⟨rfl, rfl⟩ := Prod.mk.inj (Option.some.inj hopen)
    have hsource := QuoteMark.inside_eq_some hclose
    refine ⟨rfl, ?_⟩
    simpa [QuoteMark.text] using hsource.symm

theorem readLiteral_singleQuoted_iff (s : List Char) :
    readLiteral named ('\'' :: (s ++ ['\''])) = some (s, []) ↔ DenotesItself s := by
  rw [readLiteral_eq_some_iff, newlines_singleQuoted]
  constructor
  · rintro ⟨hnull, m, source, raw, hopen, hclose, hread⟩
    obtain ⟨hlength, hsame⟩ := unescape_length hread
    obtain ⟨rfl, rfl⟩ := inside_of_denotes hopen hclose hlength
    obtain ⟨hlines, hplain⟩ := hsame (Nat.le_antisymm hlength (length_newlines_le s))
    have hchars := inside_chars hclose hplain (by simp)
    rw [← hlines] at hplain hchars
    refine ⟨hplain, fun c hc => ⟨(hchars c hc).1, (hchars c hc).2, ?_, ?_⟩⟩
    · rintro rfl
      exact no_return_newlines s (hlines ▸ hc)
    · rintro rfl
      exact hnull (by simp [hc])
  · rintro ⟨hplain, hchars⟩
    have hreturn : '\r' ∉ s := fun h => (hchars _ h).2.2.1 rfl
    have hnull : '\x00' ∉ s := fun h => (hchars _ h).2.2.2 rfl
    rw [newlines_of_no_return hreturn]
    refine ⟨by simpa using hnull, singleQuote, _, s, QuoteMark.opening_short (Or.inr rfl) ?_,
      inside_of_chars hplain (fun c hc => ⟨(hchars c hc).1, (hchars c hc).2.1⟩) (by simp) [],
      unescape_of_plain hplain⟩
    cases s with
    | nil => decide
    | cons c s =>
      rw [List.cons_append, List.cons_prefix_cons]
      exact fun h => (hchars c List.mem_cons_self).1 h.1.symm

end Python

namespace Action.Scope

open Text Python

def forceStateLine (owner argument : String) : String :=
  "if " ++ owner ++ ".sm is not None: " ++ owner ++ ".sm.force_state(" ++ argument ++ ")"

theorem forcedOrigin_eq {s : Scope} {origins : List (String × String)}
    {event target rendered origin : String}
    (howner : trimmed target = "self" ∨ rendered = s.ownerExpr)
    (horigin : origins.lookup event = some origin) :
    s.forcedOrigin origins event target rendered =
      [.simple (forceStateLine s.ownerExpr ("'" ++ origin ++ "'"))] := by
  have hline : "if " ++ s.ownerExpr ++ ".sm is not None: " ++ s.ownerExpr ++ ".sm.force_state('" ++
      origin ++ "')" = forceStateLine s.ownerExpr ("'" ++ origin ++ "'") := by
    apply String.toList_injective
    simp [forceStateLine]
  rw [forcedOrigin, if_pos howner, horigin, ← hline]

/-- The state that an event to the owner forces is written as a literal of its name exactly when
each character of the name denotes itself between single quotes. -/
theorem forced_origin_denoted_iff (named : String → Option Char) (s : Scope)
    (origins : List (String × String)) (text : String) (keyLetters : Option String)
    (event : String) (args : List Argument) (target origin : String)
    (howner : trimmed target = "self" ∨ (s.expression target).text = s.ownerExpr)
    (horigin : origins.lookup (s.dispatchName origins event) = some origin) :
    ∃ argument,
      (s.statement origins text (.generate keyLetters event args target)).emissions[1]? =
        some (.simple (forceStateLine s.ownerExpr argument)) ∧
      (Denotes named argument origin ↔ DenotesItself origin.toList) := by
  refine ⟨"'" ++ origin ++ "'", ?_, ?_⟩
  · have hforced := forcedOrigin_eq howner horigin
    rw [statement]
    simp only [hforced]
    rfl
  · have hsource : ("'" ++ origin ++ "'").toList = '\'' :: (origin.toList ++ ['\'']) := by simp
    rw [Denotes, hsource]
    exact readLiteral_singleQuoted_iff origin.toList

def ownerScope : Scope := ⟨.empty, none, "owner", [], none⟩

/-- A backslash that starts no escape does no harm. -/
theorem backslash_origin_denoted :
    trimmed "self" = "self" ∧
    [("Stop", "Up\\Down")].lookup (ownerScope.dispatchName [("Stop", "Up\\Down")] "stop") =
      some "Up\\Down" ∧
    ∃ argument,
      (ownerScope.statement [("Stop", "Up\\Down")] "generate stop to self"
          (.generate none "stop" [] "self")).emissions[1]? =
        some (.simple (forceStateLine "owner" argument)) ∧
      Denotes (fun _ => none) argument "Up\\Down" := by
  have hself : trimmed "self" = "self" := by decide +kernel
  have horigin : [("Stop", "Up\\Down")].lookup
      (ownerScope.dispatchName [("Stop", "Up\\Down")] "stop") = some "Up\\Down" := by decide +kernel
  obtain ⟨argument, hline, hiff⟩ := forced_origin_denoted_iff (fun _ => none) ownerScope
    [("Stop", "Up\\Down")] "generate stop to self" none "stop" [] "self" "Up\\Down" (Or.inl hself)
    horigin
  exact ⟨hself, horigin, argument, hline, hiff.2 (by decide +kernel)⟩

/-- A quote in the name of the state closes the literal, and the rest of the name is left over. -/
theorem quote_origin_cut :
    (ownerScope.statement [("Stop", "Won't start")] "generate Stop to self"
        (.generate none "Stop" [] "self")).emissions[1]? =
      some (.simple (forceStateLine "owner" "'Won't start'")) ∧
    readLiteral (fun _ => none) "'Won't start'".toList = some ("Won".toList, "t start'".toList) ∧
    ¬ Denotes (fun _ => none) "'Won't start'" "Won't start" := by
  have hread : readLiteral (fun _ => none) "'Won't start'".toList =
      some ("Won".toList, "t start'".toList) :=
    readLiteral_eq_some_iff.2 ⟨by decide +kernel, singleQuote, "Won't start'".toList, "Won".toList,
      by decide +kernel, by decide +kernel, unescape_of_plain (by decide +kernel)⟩
  refine ⟨by decide +kernel, hread, fun h => ?_⟩
  rw [Denotes, hread] at h
  cases h

end Action.Scope

end ExecutableUml
