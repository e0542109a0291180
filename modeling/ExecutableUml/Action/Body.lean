import ExecutableUml.Action.Grammar
import ExecutableUml.Action.Layout
import ExecutableUml.Action.Rendering
import ExecutableUml.Json.Printer

/-! The code of an action body. A statement puts out emissions, makes notes, and changes what the
scope knows about variables. -/

namespace ExecutableUml.Action

open Text

/-- What one statement leads to. -/
structure Outcome where
  scope : Scope
  emissions : List Emission
  notes : List Note
deriving DecidableEq, Repr

namespace Scope

def quoted (text : String) : String := "\"" ++ text ++ "\""

def var (s : Scope) (name : String) : String :=
  match trimmed name with
  | "self" => s.ownerExpr
  | "rcvd_evt" => "payload"
  | "selected" => "candidate"
  | other => other

/-- Class name for a look-up in the store; a class that is not known is found at run time. -/
def classLiteral (s : Scope) (classRef : String) : Rendered :=
  match s.symbols.resolve classRef with
  | some c => ⟨quoted c.pyName, []⟩
  | none => ⟨"rt.class_name(" ++ quoted classRef ++ ")", [.lateBoundClass classRef]⟩

/-- Class name that filters links; one that is not known stays as it is. -/
def classFilter (s : Scope) (classRef : String) : String :=
  match s.symbols.resolve classRef with
  | some c => quoted c.pyName
  | none => Json.quote (trimmed classRef)

def callArguments (s : Scope) : List Argument → Rendered
  | [] => ⟨"", []⟩
  | a :: as => ((s.expression a.value).argument a.name).append (s.callArguments as)

/-- Entries of a payload; an argument without a name is keyed by its place. -/
def payloadEntries (s : Scope) (place : Nat) : List Argument → List Rendered
  | [] => []
  | a :: as =>
    let value := s.expression a.value
    ⟨"'" ++ a.name.getD ("arg" ++ toString place) ++ "': " ++ value.text, value.notes⟩ ::
      s.payloadEntries (place + 1) as

def payload (s : Scope) (args : List Argument) : Rendered :=
  let entries := s.payloadEntries 0 args
  ⟨"\x7b" ++ joinWith ", " (entries.map Rendered.text) ++ "\x7d", entries.flatMap Rendered.notes⟩

/-- The condition of a selection, in which the selected variable is the candidate. -/
def condition (s : Scope) (var : String) (classRef : Option String) (text : String) : Rendered :=
  (s.withCandidate var classRef).expression text

/-- Assigns a selection: the first match or nothing, or the list of all matches. `first` is the
code that takes the first one when there is no condition. -/
def selection (s : Scope) (k : Cardinality) (var source first : String) (classRef : Option String)
    (cond : Option String) : Rendered :=
  match cond with
  | some c =>
    let c := s.condition var classRef c
    if k = .many then
      ⟨var ++ " = [candidate for candidate in " ++ source ++ " if " ++ c.text ++ "]", c.notes⟩
    else
      ⟨var ++ " = next((candidate for candidate in " ++ source ++ " if " ++ c.text ++ "), None)",
        c.notes⟩
  | none => if k = .many then ⟨var ++ " = list(" ++ source ++ ")", []⟩ else ⟨var ++ " = " ++ first, []⟩

def navigation (s : Scope) (source : String) (hops : List Hop) : String :=
  match hops with
  | [h] => "rt.links.select_related(" ++ quoted h.relId ++ ", " ++ source ++ ", " ++
      s.classFilter h.className ++ ")"
  | _ => "rt.links.navigate(" ++ source ++ ", [" ++ joinWith ", " (hops.map fun h =>
      "(" ++ quoted h.relId ++ ", " ++ s.classFilter h.className ++ ")") ++ "])"

/-- Link calls across one relationship. -/
def linkCall (operation relId a b : String) : String :=
  "rt.links." ++ operation ++ "(" ++ quoted relId ++ ", " ++ a ++ ", " ++ b ++ ")"

/-- The spelling under which an event is dispatched: as it was declared, else as a transition has
it, else as it stands. -/
def dispatchName (s : Scope) (origins : List (String × String)) (event : String) : String :=
  ((s.symbols.eventName event) <|>
    (origins.find? fun o => sameUpToAsciiCase o.1 event).map Prod.fst).getD event

/-- An event to the owner first puts the machine into the state that the event leaves. -/
def forcedOrigin (s : Scope) (origins : List (String × String)) (event target rendered : String) :
    List Emission :=
  if trimmed target = "self" ∨ rendered = s.ownerExpr then
    match origins.lookup event with
    | some origin => [.simple ("if " ++ s.ownerExpr ++ ".sm is not None: " ++ s.ownerExpr ++
        ".sm.force_state('" ++ origin ++ "')")]
    | none => []
  else []

/-- A value that is one word, semicolons aside. -/
def singleWord (value : String) : Option String :=
  let word := trim (trim value.toList |>.reverse.dropWhile (· == ';')).reverse
  if word.all isWordChar then some (String.ofList word) else none

/-- A list of arguments begins with no comma. -/
def dropCommas : List Char → List Char
  | ',' :: ' ' :: rest => dropCommas rest
  | s => s

def statement (s : Scope) (origins : List (String × String)) (text : String) :
    Statement → Outcome
  | .comment c => ⟨s, [.comment c], []⟩
  | .ifBegin c =>
    let c := s.expression c
    ⟨s, [.openBlock ("if " ++ c.text ++ ":")], c.notes⟩
  | .elseIf c =>
    let c := s.expression c
    ⟨s, [.nextBranch ("elif " ++ c.text ++ ":")], c.notes⟩
  | .elseBegin => ⟨s, [.nextBranch "else:"], []⟩
  | .ifEnd => ⟨s, [.closeBlock], []⟩
  | .forEnd => ⟨s, [.closeBlock], []⟩
  | .whileEnd => ⟨s, [.closeBlock], []⟩
  | .forEach var collection =>
    let items := s.expression collection
    ⟨s.bindLike var (trimmed collection),
      [.openBlock ("for " ++ var ++ " in (" ++ items.text ++ " or []):")], items.notes⟩
  | .whileBegin c =>
    let c := s.expression c
    ⟨s, [.openBlock ("while " ++ c.text ++ ":")], c.notes⟩
  | .breakLoop => ⟨s, [.simple "break"], []⟩
  | .continueLoop => ⟨s, [.simple "continue"], []⟩
  | .returnValue (some value) =>
    let value := s.expression value
    ⟨s, [.simple ("return " ++ value.text)], value.notes⟩
  | .returnValue none => ⟨s, [.simple "return"], []⟩
  | .selectInstances k var classRef cond =>
    let c := s.classLiteral classRef
    let chosen := s.selection k var ("rt.store.select_all(" ++ c.text ++ ")")
      ("rt.store.select_any(" ++ c.text ++ ")") (some classRef) cond
    ⟨s.bind var classRef, [.comment ("[Instance Selection] " ++ text), .simple chosen.text],
      c.notes ++ chosen.notes⟩
  | .selectRelated k var source hops cond =>
    let related := s.navigation (s.var source) hops
    let target := hops.getLast?.map Hop.className
    let chosen := s.selection k var related ("next(iter(" ++ related ++ "), None)") target cond
    ⟨s.assign var (target.bind s.symbols.resolve),
      [.comment ("[Navigation] " ++ text), .simple chosen.text], chosen.notes⟩
  | .createObject var classRef =>
    let c := s.classLiteral classRef
    ⟨s.bind var classRef, [.simple (var ++ " = rt.create(" ++ c.text ++ ")")], c.notes⟩
  | .deleteObject var =>
    let v := s.var var
    ⟨s, [.simple ("if " ++ v ++ " is not None: rt.store.delete_instance(" ++ v ++ ")")], []⟩
  | .relate a b relId none => ⟨s, [.simple (linkCall "relate" relId (s.var a) (s.var b))], []⟩
  | .relate a b relId (some link) =>
    let l := s.var link
    ⟨s, [.simple ("rt.links.relate_all(" ++ quoted relId ++ ", [(" ++ s.var a ++ ", " ++ l ++
      "), (" ++ l ++ ", " ++ s.var b ++ ")])")], []⟩
  | .unrelate a b relId none => ⟨s, [.simple (linkCall "unrelate" relId (s.var a) (s.var b))], []⟩
  | .unrelate a b relId (some link) =>
    ⟨s, [.simple (linkCall "unrelate" relId (s.var a) (s.var link)),
      .simple (linkCall "unrelate" relId (s.var link) (s.var b))], []⟩
  | .unrelateNavigated a source hop relId =>
    ⟨s, [.simple ("_linked = " ++
        linkCall "select_one_related" hop.relId (s.var source) (s.classFilter hop.className)),
      .simple ("if _linked is not None: " ++ linkCall "unrelate" relId (s.var a) "_linked")], []⟩
  | .send message args target =>
    let p := s.payload args
    ⟨s, [.simple ("rt.services.send_message(" ++ Json.quote (trimmed target) ++ ", " ++
      quoted message ++ ", " ++ p.text ++ ")")], p.notes⟩
  | .createEvent var _ label args target =>
    let p := s.payload args
    let t := s.expression target
    ⟨s.unbind var, [.simple (var ++ " = EventInstance(" ++ quoted label ++ ", " ++ t.text ++ ", " ++
      p.text ++ ")")], p.notes ++ t.notes⟩
  | .generate _ event args target =>
    let p := s.payload args
    let t := s.expression target
    let event := s.dispatchName origins event
    ⟨s, [.comment ("[Event Generation] " ++ text)] ++ s.forcedOrigin origins event target t.text ++
      [.simple ("if getattr(" ++ t.text ++ ", 'sm', None) is not None: " ++ t.text ++
        ".sm.dispatch(" ++ quoted event ++ ", " ++ p.text ++ ")")], p.notes ++ t.notes⟩
  | .generateInstance var => ⟨s, [.simple ("rt.services.deliver(" ++ s.var var ++ ")")], []⟩
  | .bridgeCall entity operation args =>
    let a := s.callArguments args
    ⟨s, [.guarded ("rt.bridge(" ++ quoted entity ++ ", " ++ quoted operation ++ a.text ++ ")")
      ("bridge " ++ entity ++ "::" ++ operation ++ " failed")], a.notes⟩
  | .functionCall name args =>
    let a := s.callArguments args
    ⟨s, [.guarded ("rt.call_function(" ++ quoted name ++ a.text ++ ")")
      ("function " ++ name ++ " failed")], a.notes⟩
  | .methodCall object method args =>
    let o := s.var object
    let a := s.callArguments args
    ⟨s, [.simple ("if hasattr(" ++ o ++ ", '" ++ method ++ "'): " ++ o ++ "." ++ method ++ "(" ++
      String.ofList (dropCommas a.text.toList) ++ ")")], a.notes⟩
  | .assign (.attribute object name) value =>
    let v := s.expression value
    ⟨s, [.simple (s.var object ++ ".set_attr('" ++ name ++ "', " ++ v.text ++ ")")],
      v.notes ++ s.checkMember (trimmed object) ⟨name, false⟩⟩
  | .assign (.variable name) value =>
    let v := s.expression value
    ⟨s.assign name ((singleWord value).bind s.classOf), [.simple (name ++ " = " ++ v.text)], v.notes⟩
  | .unrecognized line =>
    ⟨s, [.comment ("Unparsed OAL: " ++ line)], [.unparsed line]⟩

/-- The emissions of all statements and their notes, located by line. -/
def body (s : Scope) (origins : List (String × String)) :
    List BodyLine → List Emission × List Note
  | [] => ([], [])
  | l :: ls =>
    let o := s.statement origins l.text l.statement
    let (es, ns) := o.scope.body origins ls
    (o.emissions ++ es, o.notes.map (Note.under ("line" ++ toString l.number)) ++ ns)

end Scope

/-- Lines of code and the notes on them. -/
structure BodyCode where
  lines : List Line
  notes : List Note
deriving DecidableEq, Repr

/-- The code of an action body. `origins` has the state that each event leaves. -/
def compileBody (s : Scope) (origins : List (String × String)) (text : String) : BodyCode :=
  let (es, ns) := s.body origins (parseBody text)
  ⟨layout es, ns⟩

end ExecutableUml.Action
