import ExecutableUml.Proofs.Action.Places.Steps

/-! The reader by places goes along with the grammar: where the grammar reads a value and leaves
words, the reader finds the same value, and its position is the place of these words. There is no
case for a fault. -/

namespace ExecutableUml.Action

def CutAll (ws : List Word) (texts : List String) : Prop := ∀ text ∈ texts, CutFrom ws text

@[simp] theorem cutAll_nil (ws : List Word) : CutAll ws [] := List.forall_mem_nil _

@[simp] theorem cutAll_cons {ws : List Word} {text : String} {texts : List String} :
    CutAll ws (text :: texts) ↔ CutFrom ws text ∧ CutAll ws texts :=
  List.forall_mem_cons

@[simp] theorem cutAll_append {ws : List Word} {a b : List String} :
    CutAll ws (a ++ b) ↔ CutAll ws a ∧ CutAll ws b :=
  List.forall_mem_append

theorem cutFrom_of_mem {ws : List Word} {w : Word} (hw : w ∈ ws) : CutFrom ws w.text := by
  obtain ⟨before, after, rfl⟩ := List.append_of_mem hw
  refine ⟨[w], List.cons_ne_nil _ _, ⟨before, after, by simp⟩, ?_⟩
  simp [Word.join, Word.text, Token.text]

def Argument.texts (a : Argument) : List String := a.name.toList ++ [a.value]

def Hop.texts (h : Hop) : List String := [h.className, h.relId]

namespace Places

open Grammar

/-- The reader refuses with the grammar, or the two results are tied together by `R`. -/
inductive Follows {α β : Type} (R : α → Nat → β → Prop) :
    Except Fault (Option (α × Nat)) → Option β → Prop
  | refused : Follows R (.ok none) none
  | found {a : α} {next : Nat} {b : β} (h : R a next b) : Follows R (.ok (some (a, next))) (some b)

def Remain (ws : List Word) (_ : Unit) (next : Nat) (rest : List Word) : Prop := At ws next rest

/-- The same value, of which `P` holds, and the words behind the position remain. -/
def Reads {α : Type} (ws : List Word) (P : α → Prop) (a : α) (next : Nat) (b : α × List Word) :
    Prop :=
  b.1 = a ∧ At ws next b.2 ∧ P a

/-- The same value, of which `P` holds; it is the last one of the line. -/
def Ends {α : Type} (P : α → Prop) (a : α) (_ : Nat) (b : α) : Prop := b = a ∧ P a

namespace Reader

variable {α β : Type} {place : Nat}

theorem pure_bind (a : α) (k : α → Reader β) : ((pure a : Reader α) >>= k) place = k a place := rfl

theorem position_bind (k : Nat → Reader β) : (position >>= k) place = k place place := rfl

theorem moveTo_bind (next : Nat) (k : Unit → Reader β) : (moveTo next >>= k) place = k () next := rfl

theorem found_bind (a : α) (k : α → Reader β) : (found (.ok a) >>= k) place = k a place := rfl

theorem bind_of_refused {x : Reader α} (hx : x place = .ok none) (k : α → Reader β) :
    (x >>= k) place = .ok none := by
  change andThen x k place = _
  rw [andThen, hx]

theorem bind_of_ok {x : Reader α} {a : α} {next : Nat} (hx : x place = .ok (some (a, next)))
    (k : α → Reader β) : (x >>= k) place = k a next := by
  change andThen x k place = _
  rw [andThen, hx]

end Reader

namespace Follows

variable {α β γ δ : Type} {R : α → Nat → β → Prop} {S : γ → Nat → δ → Prop} {place : Nat}

theorem bind_of {x : Reader α} {k : α → Reader γ} {o : Option β} {f : β → Option δ}
    (hx : Follows R (x place) o)
    (hk : ∀ a next b, o = some b → R a next b → Follows S (k a next) (f b)) :
    Follows S ((x >>= k) place) (o >>= f) := by
  change Follows S (Reader.andThen x k place) (o.bind f)
  rw [Reader.andThen]
  generalize x place = result at hx
  cases hx with
  | refused => exact .refused
  | found h => exact hk _ _ _ rfl h

theorem bind {x : Reader α} {k : α → Reader γ} {o : Option β} {f : β → Option δ}
    (hx : Follows R (x place) o) (hk : ∀ a next b, R a next b → Follows S (k a next) (f b)) :
    Follows S ((x >>= k) place) (o >>= f) :=
  hx.bind_of fun a next b _ => hk a next b

theorem remain {ws : List Word} {x : Reader Unit} {k : Unit → Reader γ} {o : Option (List Word)}
    {f : List Word → Option δ} (hx : Follows (Remain ws) (x place) o)
    (hk : ∀ next after, At ws next after → Follows S (k () next) (f after)) :
    Follows S ((x >>= k) place) (o >>= f) :=
  hx.bind fun _ next after => hk next after

theorem reads {ws : List Word} {P : α → Prop} {x : Reader α} {k : α → Reader γ}
    {o : Option (α × List Word)} {f : α × List Word → Option δ}
    (hx : Follows (Reads ws P) (x place) o)
    (hk : ∀ a next after, At ws next after → P a → Follows S (k a next) (f (a, after))) :
    Follows S ((x >>= k) place) (o >>= f) := by
  refine hx.bind ?_
  rintro _ next ⟨a, after⟩ ⟨rfl, hat, ha⟩
  exact hk a next after hat ha

theorem ends {P : α → Prop} {x : Reader α} {k : α → Reader γ} {o : Option α} {f : α → Option δ}
    (hx : Follows (Ends P) (x place) o)
    (hk : ∀ a next, P a → Follows S (k a next) (f a)) :
    Follows S ((x >>= k) place) (o >>= f) := by
  refine hx.bind ?_
  rintro _ next a ⟨rfl, ha⟩
  exact hk a next ha

theorem map {x : Reader α} {o : Option β} {f : α → γ} {g : β → δ} (hx : Follows R (x place) o)
    (hfg : ∀ a next b, R a next b → S (f a) next (g b)) :
    Follows S ((x >>= fun a => pure (f a)) place) (o.map g) := by
  rw [Option.map_eq_bind]
  exact hx.bind fun a next b h => .found (hfg a next b h)

theorem orElse {x y : Reader α} {o p : Option β} (hx : Follows R (x place) o)
    (hy : Follows R (y place) p) : Follows R (Reader.orElse x y place) (o <|> p) := by
  rw [Reader.orElse]
  generalize x place = result at hx
  cases hx with
  | refused => exact hy
  | found h => exact .found h

end Follows

theorem textBetween_empty (line : Line) (place : Nat) : line.textBetween place place = .ok "" := by
  rw [Line.textBetween, if_neg fun h => Nat.lt_irrefl _ h.1]
  rfl

/-- Only semicolons stand behind the content. -/
theorem content_ends (ws : List Word) :
    ∃ ends, ws = content ws ++ ends ∧ ∀ w ∈ ends, w.isPunct ";" = true := by
  refine ⟨(ws.reverse.takeWhile (·.isPunct ";")).reverse, ?_, fun w hw => ?_⟩
  · rw [content, ← List.reverse_append, List.takeWhile_append_dropWhile, List.reverse_reverse]
  · exact List.all_eq_true.1 List.all_takeWhile w (List.mem_reverse.1 hw)

/-- The steps of a navigation, word by word. -/
theorem hops_eq {ws tail : List Word} (h : punct "->" ws = some tail) : hops ws = do
    let cls ← ident tail
    let ws ← punct "[" cls.2
    let rel ← ident ws
    let after ← afterBracket rel.2
    let steps ← hops after
    return (⟨cls.1, rel.1⟩ :: steps.1, steps.2) := by
  have hstep : hops ws = hop ws >>= fun s => hops s.2 >>= fun ss => pure (s.1 :: ss.1, ss.2) := by
    cases hs : hop ws with
    | none => exact hops_eq_none h hs
    | some s =>
      rw [hops_eq_of_hop h hs]
      change _ = (hops s.2 >>= fun ss => pure (s.1 :: ss.1, ss.2))
      cases hops s.2 <;> rfl
  rw [hstep, hop_eq, h]
  simp only [Option.bind_eq_bind, Option.bind_some, Option.bind_assoc, Option.pure_def]

/-- What is left behind the optional phrase of a relationship. -/
def afterPhrase (ws : List Word) : Option (List Word) :=
  match punct "." ws with
  | none => some ws
  | some [] => none
  | some (w :: ws) => if w.token.kind == .string || w.isIdent then some ws else none

theorem across_eq (ws : List Word) :
    across ws = keyword "across" ws >>= fun ws => ident ws >>= fun rel =>
      afterPhrase rel.2 >>= usingLink rel.1 := by
  rw [across]
  refine bind_congr fun ws => bind_congr fun rel => ?_
  obtain ⟨relId, ws⟩ := rel
  dsimp only [afterPhrase]
  rcases punct "." ws with _ | _ | ⟨w, ws⟩
  · rfl
  · rfl
  · dsimp only
    split <;> rfl

def eventLabel (ws : List Word) : Option ((Option String × String) × List Word) :=
  ident ws >>= fun first =>
    match punct ":" first.2 with
    | none => some ((none, first.1), first.2)
    | some ws => ident ws >>= fun label => some ((some first.1, label.1), label.2)

theorem eventSpec_eq (ws : List Word) :
    eventSpec ws = eventLabel ws >>= fun l => eventArguments l.1.1 l.1.2 l.2 := by
  rw [eventSpec, eventLabel]
  cases ident ws with
  | none => rfl
  | some first =>
    simp only [Option.bind_eq_bind, Option.bind_some]
    cases punct ":" first.2 with
    | none => rfl
    | some ws =>
      dsimp only
      cases ident ws <;> rfl

theorem argument_cutAll {v : List Word} {a : Argument} (h : argument v = some a) :
    CutAll v a.texts := by
  have hvalue : CutAll v [a.value] := by simpa using argument_cut h
  rw [Argument.texts, cutAll_append]
  refine ⟨?_, hvalue⟩
  unfold argument at h
  split at h
  · cases h
  · rename_i w colon x v
    split at h
    · cases h
      simpa using cutFrom_of_mem List.mem_cons_self
    · cases h
      simp
  · cases h
    simp

section Steps

variable {line : Line} {ws rest : List Word} {place : Nat} (h : line.Spells ws)
  (ha : At ws place rest)
include h ha

theorem peek_eq : Reader.peek line place = .ok (some (rest.head?.map Word.token, place)) := by
  rw [Reader.peek, h.token? ha]

theorem eat_eq (test : Token → Bool) :
    Reader.eat line test place =
      if rest.head?.any fun w => test w.token then .ok (some (true, place + 1))
      else .ok (some (false, place)) := by
  rw [Reader.eat, Reader.position_bind, Reader.bind_of_ok (peek_eq h ha), Option.any_map]
  split <;> rfl

/-- What is read behind a word that passes the test, and what is read otherwise. -/
theorem follows_eat {α β : Type} {R : α → Nat → β → Prop} {test : Token → Bool}
    {read : List Word → Option (List Word)} (hnil : read [] = none)
    (hcons : ∀ w rest, read (w :: rest) = if test w.token then some rest else none)
    {k : Bool → Reader α} {o : Option β}
    (hyes : ∀ after, read rest = some after → At ws (place + 1) after →
      Follows R (k true (place + 1)) o)
    (hno : read rest = none → Follows R (k false place) o) :
    Follows R ((Reader.eat line test >>= k) place) o := by
  have heat := eat_eq h ha test
  cases rest with
  | nil =>
    rw [Reader.bind_of_ok heat]
    exact hno hnil
  | cons w rest =>
    rw [hcons] at hyes hno
    change _ = if test w.token = true then _ else _ at heat
    split at heat
    · rename_i htest
      rw [Reader.bind_of_ok heat]
      exact hyes rest (if_pos htest) ha.next
    · rename_i htest
      rw [Reader.bind_of_ok heat]
      exact hno (if_neg htest)

theorem follows_keyword {α β : Type} {R : α → Nat → β → Prop} {word : String} {k : Bool → Reader α}
    {o : Option β}
    (hyes : ∀ after, keyword word rest = some after → At ws (place + 1) after →
      Follows R (k true (place + 1)) o)
    (hno : keyword word rest = none → Follows R (k false place) o) :
    Follows R ((Reader.eatKeyword line word >>= k) place) o :=
  follows_eat h ha rfl (fun _ _ => rfl) hyes hno

theorem follows_punct {α β : Type} {R : α → Nat → β → Prop} {mark : String} {k : Bool → Reader α}
    {o : Option β}
    (hyes : ∀ after, punct mark rest = some after → At ws (place + 1) after →
      Follows R (k true (place + 1)) o)
    (hno : punct mark rest = none → Follows R (k false place) o) :
    Follows R ((Reader.eatPunct line mark >>= k) place) o :=
  follows_eat h ha rfl (fun _ _ => rfl) hyes hno

theorem demandKeyword_follows (word : String) :
    Follows (Remain ws) (Reader.demand (Reader.eatKeyword line word) place) (keyword word rest) := by
  refine follows_keyword h ha (fun after hafter hnext => ?_) fun hnone => ?_
  · rw [hafter]
    exact .found hnext
  · rw [hnone]
    exact .refused

theorem demandPunct_follows (mark : String) :
    Follows (Remain ws) (Reader.demand (Reader.eatPunct line mark) place) (punct mark rest) := by
  refine follows_punct h ha (fun after hafter hnext => ?_) fun hnone => ?_
  · rw [hafter]
    exact .found hnext
  · rw [hnone]
    exact .refused

theorem ident_follows :
    Follows (Reads ws (CutFrom ws)) (Reader.ident line place) (ident rest) := by
  rw [Reader.ident, Reader.position_bind, Reader.bind_of_ok (peek_eq h ha)]
  cases rest with
  | nil => exact .refused
  | cons w rest =>
    rw [ident]
    by_cases hident : w.isIdent = true
    · have htext : CutFrom ws w.text := cutFrom_of_mem ha.mem
      have hident' : w.token.isIdent = true := hident
      simp only [List.head?_cons, Option.map_some]
      rw [if_pos hident, if_pos hident']
      exact .found ⟨rfl, ha.next, htext⟩
    · have hident' : ¬ w.token.isIdent = true := hident
      simp only [List.head?_cons, Option.map_some]
      rw [if_neg hident, if_neg hident']
      exact .refused

theorem atEnd_eq : Reader.atEnd line place = .ok (some (atEnd rest, place)) := by
  rw [Reader.atEnd, Reader.position_bind, contentEnd_eq h ha, Reader.found_bind, atEnd]
  change Except.ok (some (decide (place + (content rest).length ≤ place), place)) = _
  cases content rest <;> simp

theorem finish_follows {α : Type} {P : α → Prop} {value : α} (hvalue : P value) :
    Follows (Ends P) (Reader.finish line value place) (finish value rest) := by
  rw [Reader.finish, Reader.bind_of_ok (atEnd_eq h ha), finish]
  split
  · exact .found ⟨rfl, hvalue⟩
  · exact .refused

theorem rest_eq :
    Reader.rest line place = .ok (some ((Grammar.rest rest).getD "", ws.length)) := by
  rw [Reader.rest, Reader.position_bind, contentEnd_eq h ha, Reader.found_bind, Grammar.rest, atEnd]
  obtain ⟨ends, hends⟩ := content_isPrefix rest
  rw [← hends] at ha
  cases hcontent : content rest with
  | nil =>
    rw [List.length_nil, Nat.add_zero, textBetween_empty, Reader.found_bind, h.size_eq]
    rfl
  | cons w tail =>
    rw [hcontent] at ha
    rw [h.text ha (List.cons_ne_nil _ _), Reader.found_bind, h.size_eq]
    rfl

omit h in
theorem rest_cutFrom {text : String} (hrest : Grammar.rest rest = some text) : CutFrom ws text := by
  rw [← List.append_nil rest] at ha
  exact (rest_cut hrest).mono ha.isInfix

theorem nonemptyRest_follows :
    Follows (Ends (CutFrom ws)) (Reader.nonempty (Reader.rest line) place) (Grammar.rest rest) := by
  rw [Reader.nonempty, Reader.bind_of_ok (rest_eq h ha)]
  cases hrest : Grammar.rest rest with
  | none => exact .refused
  | some text =>
    have hcut := rest_cutFrom ha hrest
    rw [Option.getD_some, if_neg (by rw [h.nonempty hcut]; exact Bool.false_ne_true)]
    exact .found ⟨rfl, hcut⟩

theorem condition_follows :
    Follows (Ends (CutFrom ws)) (Reader.condition line place) (condition rest) := by
  have hrest := nonemptyRest_follows h ha
  obtain ⟨ends, hsplit, hends⟩ := content_ends rest
  rw [Reader.condition, Reader.position_bind, contentEnd_eq h ha, Reader.found_bind, condition]
  rw [Grammar.rest, atEnd] at hrest
  cases hcontent : content rest with
  | nil =>
    rw [List.length_nil, Nat.add_zero, if_pos (Nat.le_refl _)]
    exact .refused
  | cons w tail =>
    rw [hcontent] at hrest hsplit
    rw [hsplit, List.cons_append] at ha
    have hgroup : line.groupAt place =
        .ok ((if w.isPunct "(" then closeGroup 0 tail else none).map fun g =>
          place + 1 + g.1.length) := by
      rw [groupAt_eq h ha, closeGroup_append hends]
      split
      · rw [Option.map_map]
        rfl
      · rfl
    rw [if_neg (by simp), hgroup, Reader.found_bind]
    dsimp only
    -- a group counts only if it ends where the content ends
    cases hfound : if w.isPunct "(" then closeGroup 0 tail else none with
    | none => exact hrest
    | some found =>
      obtain ⟨inside, after⟩ := found
      obtain ⟨close, rfl⟩ : ∃ close, tail = inside ++ close :: after := by
        split at hfound
        · exact closeGroup_split hfound
        · cases hfound
      rw [Option.map_some, Option.filter_some]
      cases after with
      | nil =>
        rw [if_pos (by simp; omega)]
        dsimp only
        rw [List.append_assoc] at ha
        cases inside with
        | nil =>
          rw [List.length_nil, Nat.add_zero, textBetween_empty, Reader.found_bind]
          exact .refused
        | cons v inside =>
          have hcut := ha.next.cutFrom (List.cons_ne_nil v inside)
          rw [h.text ha.next (List.cons_ne_nil v inside), Reader.found_bind, Reader.moveTo_bind,
            Reader.nonempty, Reader.pure_bind,
            if_neg (by rw [h.nonempty hcut]; exact Bool.false_ne_true)]
          exact .found ⟨rfl, hcut⟩
      | cons v after =>
        rw [if_neg (by simp; omega)]
        exact hrest

theorem arguments_follows :
    Follows (Reads ws fun args => CutAll ws (args.flatMap Argument.texts))
      (Reader.arguments line place) (arguments rest) := by
  rw [Reader.arguments, Reader.position_bind, Reader.bind_of_ok (peek_eq h ha), arguments,
    Option.any_map]
  cases rest with
  | nil => exact .refused
  | cons w rest =>
    rw [punct]
    have hfirst : (w :: rest).head?.any (fun w => w.token.isPunct "(") = w.isPunct "(" := rfl
    rw [hfirst]
    by_cases hopen : w.isPunct "(" = true
    · rw [if_pos hopen, if_pos hopen, closing_eq h ha hopen, Reader.found_bind]
      cases hgroup : closeGroup 0 rest with
      | none =>
        change Follows _ _ (closeGroup 0 rest >>= _)
        rw [hgroup]
        exact .refused
      | some found =>
        obtain ⟨inside, after⟩ := found
        obtain ⟨close, rfl⟩ := closeGroup_split hgroup
        have hcount : place + 1 + inside.length - place = inside.length + 1 := by omega
        change Follows _ _ (closeGroup 0 (inside ++ close :: after) >>= _)
        rw [hgroup]
        dsimp only [Option.map_some]
        rw [hcount, argumentsTo_inside h ha.next, Reader.found_bind, Reader.moveTo_bind]
        refine .found ⟨rfl, ha.next.behind.next, fun text htext => ?_⟩
        obtain ⟨a, ha', htext⟩ := List.mem_flatMap.1 htext
        obtain ⟨part, hpart, hvalue⟩ := List.mem_filterMap.1 ha'
        have hinside := (parted_splitCommas 0 inside).isInfix hpart
        exact (argument_cutAll hvalue text htext).mono (hinside.trans ha.next.isInfix)
    · rw [if_neg hopen, if_neg hopen]
      exact .refused

omit ha in
theorem bump_nil (ha : At ws place []) : Reader.bump line place = .ok none := by
  rw [Reader.bump, Reader.position_bind, Reader.bind_of_ok (peek_eq h ha)]
  rfl

omit ha in
theorem bump_cons {w : Word} (ha : At ws place (w :: rest)) :
    Reader.bump line place = .ok (some (w.token, place + 1)) := by
  rw [Reader.bump, Reader.position_bind, Reader.bind_of_ok (peek_eq h ha)]
  rfl

/-- Each round but the last one takes a word. -/
theorem skipBracket_follows {rounds : Nat} (hrounds : rest.length < rounds) :
    Follows (Remain ws) (Reader.skipBracket line rounds place) (afterBracket rest) := by
  induction rounds generalizing place rest with
  | zero => omega
  | succ rounds ih =>
    rw [Reader.skipBracket]
    cases rest with
    | nil =>
      refine follows_punct h ha (fun after hafter _ => ?_) fun _ => ?_
      · cases hafter
      · change Follows _ ((Reader.bump line >>= fun _ => Reader.skipBracket line rounds) place) _
        rw [Reader.bind_of_refused (bump_nil h ha)]
        exact .refused
    | cons w rest =>
      rw [afterBracket]
      refine follows_punct h ha (fun after hafter hnext => ?_) fun hnone => ?_
      · rw [punct] at hafter
        split at hafter
        · rename_i hclose
          cases hafter
          rw [if_pos hclose]
          exact .found hnext
        · cases hafter
      · rw [punct] at hnone
        split at hnone
        · cases hnone
        · rename_i hclose
          rw [if_neg hclose]
          change Follows _ ((Reader.bump line >>= fun _ => Reader.skipBracket line rounds) place) _
          rw [Reader.bind_of_ok (bump_cons h ha)]
          exact ih ha.next (Nat.lt_of_succ_lt_succ hrounds)

theorem hops_follows {rounds : Nat} (hrounds : rest.length < rounds) :
    Follows (Reads ws fun steps => CutAll ws (steps.flatMap Hop.texts))
      (Reader.hops line rounds place) (hops rest) := by
  induction rounds generalizing place rest with
  | zero => omega
  | succ rounds ih =>
    rw [Reader.hops]
    refine follows_punct h ha (fun after hafter hnext => ?_) fun hnone => ?_
    · rw [hops_eq hafter]
      refine .bind_of (ident_follows h hnext) ?_
      rintro _ _ ⟨className, after₁⟩ h₁ ⟨rfl, hat, hclass⟩
      refine .bind_of (demandPunct_follows h hat "[") ?_
      rintro _ _ after₂ h₂ hat
      refine .bind_of (ident_follows h hat) ?_
      rintro _ _ ⟨relId, after₃⟩ h₃ ⟨rfl, hat, hrel⟩
      refine .bind_of (skipBracket_follows h hat (h.length_lt hat)) ?_
      rintro _ _ after₄ h₄ hat
      -- a step takes the arrow at least, so there are still fewer words than rounds
      have hshorter := ((afterBracket_suffix h₄).trans (ident_suffix h₃)).trans
        ((punct_suffix h₂).trans (ident_suffix h₁)) |>.length_le
      have hlength := ha.length
      have hlength' := hnext.length
      refine (ih hat (by omega)).reads fun steps _ after₅ hat hsteps => ?_
      exact .found ⟨rfl, hat, by simp [Hop.texts, hclass, hrel, hsteps]⟩
    · rw [hops, hnone]
      exact .found ⟨rfl, ha, cutAll_nil ws⟩

theorem whereClause_follows :
    Follows (Ends fun c => CutAll ws c.toList) (Reader.whereClause line place) (whereClause rest) := by
  rw [Reader.whereClause, Reader.bind_of_ok (atEnd_eq h ha), whereClause]
  split
  · exact .found ⟨rfl, cutAll_nil ws⟩
  · refine (demandKeyword_follows h ha "where").remain fun _ after hat => ?_
    refine (condition_follows h hat).ends fun c _ hc => ?_
    exact .found ⟨rfl, by simpa using hc⟩

theorem phrase_follows :
    Follows (Remain ws) (Reader.phrase line place) (afterPhrase rest) := by
  rw [Reader.phrase, afterPhrase]
  refine follows_punct h ha (fun after hafter hat => ?_) fun hnone => ?_
  · rw [hafter]
    change Follows _ ((Reader.bump line >>= _) (place + 1)) _
    cases after with
    | nil =>
      rw [Reader.bind_of_refused (bump_nil h hat)]
      exact .refused
    | cons w after =>
      rw [Reader.bind_of_ok (bump_cons h hat)]
      change Follows _ ((if w.token.kind == .string || w.isIdent then pure () else Reader.refuse) _) _
      dsimp only
      split
      · exact .found hat.next
      · exact .refused
  · rw [hnone]
    exact .found ha

theorem across_follows :
    Follows (Ends fun a => CutAll ws (a.1 :: a.2.toList)) (Reader.across line place)
      (across rest) := by
  rw [Reader.across, across_eq]
  refine (demandKeyword_follows h ha "across").remain fun _ after hat => ?_
  refine (ident_follows h hat).reads fun relId _ after hat hrel => ?_
  refine (phrase_follows h hat).remain fun _ after hat => ?_
  rw [usingLink]
  refine follows_keyword h hat (fun after hafter hat => ?_) fun hnone => ?_
  · rw [hafter]
    refine (ident_follows h hat).reads fun link _ after hat hlink => ?_
    exact finish_follows h hat (by simp [hrel, hlink])
  · rw [hnone]
    exact finish_follows h hat (by simp [hrel])

theorem eventLabel_follows :
    Follows (Reads ws fun l => CutAll ws (l.1.toList ++ [l.2])) (Reader.eventLabel line place)
      (eventLabel rest) := by
  rw [Reader.eventLabel, eventLabel]
  refine (ident_follows h ha).reads fun first _ after hat hfirst => ?_
  refine follows_punct h hat (fun after hafter hat => ?_) fun hnone => ?_
  · dsimp only at hafter ⊢
    rw [hafter]
    refine (ident_follows h hat).reads fun label _ after hat hlabel => ?_
    exact .found ⟨rfl, hat, by simp [hfirst, hlabel]⟩
  · dsimp only at hnone ⊢
    rw [hnone]
    exact .found ⟨rfl, hat, by simp [hfirst]⟩

omit h ha in
theorem head_isPunct_iff (rest : List Word) (mark : String) :
    (rest.head?.map Word.token).any (·.isPunct mark) = true ↔ (punct mark rest).isSome := by
  cases rest with
  | nil => simp [punct]
  | cons w rest =>
    change w.isPunct mark = true ↔ _
    rw [punct]
    split <;> simp_all

/-- What is read in front of a mark, and what is read otherwise. -/
theorem follows_peek {α β : Type} {R : α → Nat → β → Prop} {mark : String} {x y : Reader α}
    {o : Option β}
    (hyes : ∀ after, punct mark rest = some after → Follows R (x place) o)
    (hno : punct mark rest = none → Follows R (y place) o) :
    Follows R ((Reader.peek line >>= fun t => if t.any (·.isPunct mark) then x else y) place) o := by
  rw [Reader.bind_of_ok (peek_eq h ha)]
  have hhead := head_isPunct_iff rest mark
  cases hmark : punct mark rest with
  | none =>
    rw [if_neg (by simp [hhead, hmark])]
    exact hno hmark
  | some after =>
    rw [if_pos (by simp [hhead, hmark])]
    exact hyes after hmark

theorem eventSpec_follows :
    Follows (fun a next b => a = (b.1, b.2.1, b.2.2.1) ∧ At ws next b.2.2.2 ∧
        CutAll ws (a.1.toList ++ a.2.1 :: a.2.2.flatMap Argument.texts))
      (Reader.eventSpec line place) (eventSpec rest) := by
  rw [Reader.eventSpec, eventSpec_eq]
  refine .bind (eventLabel_follows h ha) ?_
  rintro _ _ ⟨⟨keyLetters, label⟩, after⟩ ⟨rfl, hat, hlabel⟩
  rw [eventArguments]
  refine follows_peek h hat (fun _ hafter => ?_) fun hnone => ?_
  · rw [hafter]
    refine (arguments_follows h hat).reads fun args _ after hat hargs => ?_
    exact .found ⟨rfl, hat, by simp_all⟩
  · rw [hnone]
    exact .found ⟨rfl, hat, by simp_all⟩

end Steps

end Places

end ExecutableUml.Action
