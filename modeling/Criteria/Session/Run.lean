import Criteria.Session.Basic

/-!
# Running sessions

A compiler takes the separators from the settings of the moment when it is made and keeps them.
Reading and writing values outside of compilers goes by the default separators, whatever the
settings say. Of the records that are made, a session shows those that count at their logger.
-/

namespace Criteria
set_option autoImplicit false

/-- The text with the arguments put in for the signs `%s`, in order; `%%` stands for a percent sign.
There has to be one argument for each sign, and no other sign. -/
def fillIn : Text → List Text → Option Text
  | '%' :: 's' :: rest, a :: arguments => (fillIn rest arguments).map (a ++ ·)
  | '%' :: '%' :: rest, arguments => (fillIn rest arguments).map ('%' :: ·)
  | '%' :: _, _ => none
  | c :: rest, arguments => (fillIn rest arguments).map (c :: ·)
  | [], [] => some []
  | [], _ :: _ => none

/-- The choice of a backend by name. -/
def chosenCompiler {E : Type} (name : Text) (root : Option E) (separators : Option Separators) :
    Except SessionError (Compiler E) :=
  let details : List (String × Value) :=
    [("config_key", .ofString Setting.backend.name), ("value", .ofText name)]
  if name = "mongodb".toList then
    match separators with
    | some s => .ok (.document s)
    | none => .error .noText
  else if name = "sqlalchemy".toList then
    match root, separators with
    | none, _ => .error (.fault ⟨.invalidSetting, "A mapped model is required", details⟩)
    | some root, some s => .ok (.relational root s)
    | some _, none => .error .noText
  else
    .error (.fault ⟨.invalidSetting, "Unknown search backend",
      details ++ [("expected", .ofString "sqlalchemy|mongodb")]⟩)

namespace Session

variable {E : Type} {schema : Schema E}

/-- The level of messages: that in the settings, `info` if they say nothing. -/
def messageLevel? (s : Session E) : Option Level :=
  match s.settings.logLevel with
  | .text t => some (.ofText t)
  | d => if d.isVoid then some .info else none

/-- Whether the session shows the record. -/
def shows (s : Session E) (r : Record) : Bool :=
  s.log.admits r && (LogState.lineage r.logger).contains libraryLogger

/-- The records that the session shows. -/
def shown (s : Session E) (records : List Record) : List Record := records.filter s.shows

/-- The session with a compiler under a name. -/
def keep (s : Session E) (id : Text) (c : Compiler E) : Session E :=
  { s with compilers := (id, c) :: s.compilers.filter (·.1 != id) }

/-- What becomes of a session, the answer, and the records that show. -/
structure Step (E : Type) where
  session : Session E
  reply : Reply E
  records : List Record := []

/-- The session stays as it is. -/
def answer (s : Session E) (reply : Reply E) (records : List Record := []) : Step E :=
  ⟨s, reply, s.shown records⟩

/-- Keeps the compiler, unless there is none. -/
def keepChosen (s : Session E) (id : Text) (records : List Record) :
    Except SessionError (Compiler E) → Step E
  | .ok c => ⟨s.keep id c, .compiler c, s.shown records⟩
  | .error e => s.answer (.failure e) records

/-- Logs a text under a level. The arguments are put in only where the record shows. -/
def logAt (s : Session E) (level : Level) (logger text : Text) (arguments : List Text) : Step E :=
  let filled := if arguments.isEmpty then some text else fillIn text arguments
  let record : Record := ⟨level, logger, String.ofList (filled.getD text)⟩
  if s.shows record && filled.isNone then s.answer (.failure .argumentMismatch)
  else s.answer .done [record]

/-- The session after its logging is configured by the level in the settings, unless it was
configured before. -/
def configured? (s : Session E) : Option (Session E) :=
  if s.log.configured then some s
  else s.settings.logLevel.text?.map fun level => { s with log := s.log.configure (.ofText level) }

/-- Logs a text. -/
def logText (s : Session E) (logger : Option Text) (call : LogCall) (text : Text)
    (arguments : List Text) : Step E :=
  match s.configured? with
  | none => s.answer (.failure .noWord)
  | some s =>
    let logger := match logger with
      | none | some [] => plainLogger
      | some name => name
    let level? := match call with
      | .message => s.messageLevel?
      | .debug => some .debug
    match level? with
    | some level => s.logAt level logger text arguments
    | none => s.answer (.failure .noWord)

/-- Makes the compiler for a backend. An empty name stands for none. -/
def choose (s : Session E) (id : Text) (backend : Option Text) (root : Option E) : Step E :=
  let word? := match backend with
    | none | some [] => s.settings.backend.text?
    | some word => some word
  match word?, s.messageLevel? with
  | some word, some level =>
    let name := lowercase word
    let record : Record := ⟨level, choiceLogger,
      "Using " ++ String.ofList name ++ " where compiler"⟩
    s.keepChosen id [record] (chosenCompiler name root s.settings.separators?)
  | _, _ => s.answer (.failure .noWord)

/-- Makes a compiler with the separators of the settings, or with given ones. -/
def make (s : Session E) (id : Text) (root : Option E) (grouping decimal : Option Text) : Step E :=
  let plain : Separators := {}
  let separators : Option Separators := match grouping, decimal with
    | none, none => s.settings.separators?
    | _, _ => some ⟨grouping.getD plain.grouping, decimal.getD plain.decimal⟩
  s.keepChosen id [] <| match separators, root with
    | none, _ => .error .noText
    | some separators, some root => .ok (.relational root separators)
    | some separators, none => .ok (.document separators)

/-- Compiles criteria with the compiler of the given name. -/
def compile (layout : schema.Layout) (s : Session E) (id : Text)
    (criteria : Except (List Problem) (List RawCriterion)) : Step E :=
  match s.compilers.lookup id, criteria with
  | none, _ => s.answer (.failure .noCompiler)
  | some _, .error ps => s.answer (.failure (.problems ps))
  | some c, .ok cs =>
    match c.run layout cs with
    | (.ok q, records) => s.answer (.query q) records
    | (.error e, records) => s.answer (.failure (.compile e)) records

/-- Changes a setting. -/
def change (s : Session E) (name : String) (value : Datum) : Step E :=
  match Setting.ofName? name with
  | none => s.answer (.failure .unknownName)
  | some setting =>
    let settings := s.settings.set value setting
    { s with settings }.answer (.settings settings)

/-- Configures logging, which needs a level only the first time. -/
def setup (s : Session E) (level : Option Text) : Step E :=
  match level with
  | some level => { s with log := s.log.configure (.ofText level) }.answer .done
  | none => s.answer (if s.log.configured then .done else .failure .noWord)

/-- Sets the level of a logger. -/
def setLevel (s : Session E) (logger : Text) (level : Option Text) : Step E :=
  match level with
  | none => s.answer (.failure .noText)
  | some word => match Level.words.lookup (String.ofList word) with
    | some level? => { s with log := s.log.setLevel logger level? }.answer .done
    | none => s.answer (.failure .unknownName)

/-- Does what is asked. -/
def step (layout : schema.Layout) (s : Session E) : Request E → Step E
  | .set name value => s.change name value
  | .setup level => s.setup level
  | .level logger level => s.setLevel logger level
  | .log logger call text arguments => s.logText logger call text arguments
  | .get id backend root => s.choose id backend root
  | .make id root grouping decimal => s.make id root grouping decimal
  | .compile id criteria => s.compile layout id criteria
  | .read text => s.answer (.value (readValue {} text))
  | .readNumber text => s.answer (.number (text.bind (Criteria.readNumber {})))
  | .write v => match v.write with
    | .ok text => s.answer (.text text)
    | .error e => s.answer (.failure (.write e))

/-- Does what is asked, one request after the other. -/
def run (layout : schema.Layout) (s : Session E) : List (Request E) → List (Step E)
  | [] => []
  | r :: rs =>
    let step := s.step layout r
    step :: run layout step.session rs

end Session

end Criteria
