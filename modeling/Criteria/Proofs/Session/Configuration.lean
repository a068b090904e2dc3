import Criteria.Relational.Orders
import Criteria.Session.Run

/-!
# Compilers keep their separators

A compiler takes its separators from the settings of the moment when it is made, and the backend of
that moment decides its kind where none is named. From then on it answers criteria as if it had just
been made with those separators, whatever becomes of the settings and of other compilers.
-/

namespace Criteria
set_option autoImplicit false

variable {E : Type}

/-! ## Making compilers -/

/-- The name under which a choice of backends knows the compiler for a store. -/
def Backend.word : Backend → String
  | .document => "mongodb"
  | .relational => "sqlalchemy"

/-- The name under which a request keeps the compiler that it makes, if it asks for one. -/
def Request.slot? : Request E → Option Text
  | .get id _ _ | .make id _ _ _ => some id
  | _ => none

/-- A new compiler, relational if there is a root. -/
def Compiler.of (root : Option E) (s : Separators) : Compiler E :=
  match root with
  | none => .document s
  | some root => .relational root s

/-- The answer to criteria that compile to a query or fail. -/
def Reply.ofResult : Except CompileError (Query E) → Reply E
  | .ok q => .query q
  | .error e => .failure (.compile e)

/-- What a compiler answers to criteria, all by itself. -/
def Compiler.answer {schema : Schema E} (layout : schema.Layout) (c : Compiler E)
    (criteria : List RawCriterion) : Reply E :=
  .ofResult (c.run layout criteria).1

namespace Settings

/-- The settings after a request: only setting one of them by its name changes them. -/
def next (settings : Settings) : Request E → Settings
  | .set name value => ((Setting.ofName? name).map (settings.set value)).getD settings
  | _ => settings

/-- The settings after some requests. -/
def after (settings : Settings) (rs : List (Request E)) : Settings := rs.foldl next settings

/-- The name that a choice of a backend goes by: the given one, or without one that of the
settings. -/
def word? (settings : Settings) : Option Text → Option Text
  | none | some [] => settings.backend.text?
  | some word => some word

/-- The name that a choice goes by is that of the backend, in any letter case. -/
def Chooses (settings : Settings) (backend : Option Text) (b : Backend) : Prop :=
  ∃ word, settings.word? backend = some word ∧ lowercase word = b.word.toList

/-- A message can be logged: the level in the settings is a text, or says nothing. -/
def Loggable (settings : Settings) : Prop :=
  (∃ t, settings.logLevel = .text t) ∨ settings.logLevel.isVoid = true

/-- What a request makes while the settings are these. -/
inductive Makes (settings : Settings) : Request E → Compiler E → Prop
  | plain {id : Text} {root : Option E} {s : Separators} (now : settings.separators? = some s) :
      Makes settings (.make id root none none) (.of root s)
  /-- A separator of its own takes the place of both in the settings. -/
  | own {id : Text} {root : Option E} {grouping decimal : Option Text}
      (given : grouping ≠ none ∨ decimal ≠ none) :
      Makes settings (.make id root grouping decimal)
        (.of root ⟨grouping.getD [','], decimal.getD ['.']⟩)
  | document {id : Text} {backend : Option Text} {root : Option E} {s : Separators}
      (chosen : settings.Chooses backend .document) (logs : settings.Loggable)
      (now : settings.separators? = some s) : Makes settings (.get id backend root) (.document s)
  | relational {id : Text} {backend : Option Text} {root : E} {s : Separators}
      (chosen : settings.Chooses backend .relational) (logs : settings.Loggable)
      (now : settings.separators? = some s) :
      Makes settings (.get id backend (some root)) (.relational root s)

/-- None of the requests, done one after the other, makes a compiler under the name. -/
def Spares (settings : Settings) (id : Text) : List (Request E) → Prop
  | [] => True
  | r :: rs => (r.slot? = some id → ∀ c, ¬ settings.Makes r c) ∧ (settings.next r).Spares id rs

end Settings

namespace Session

variable {schema : Schema E} (layout : schema.Layout) (s : Session E)

/-- The session after some requests. -/
def after (rs : List (Request E)) : Session E := rs.foldl (fun s r => (s.step layout r).session) s

/-! ## Requests that make compilers -/

theorem exists_messageLevel_iff :
    (∃ level, s.messageLevel? = some level) ↔ s.settings.Loggable := by
  simp only [messageLevel?, Settings.Loggable]
  cases s.settings.logLevel <;> simp

theorem chosenCompiler_document (root : Option E) (separators : Option Separators) :
    chosenCompiler Backend.document.word.toList root separators =
      separators.elim (.error .noText) fun s => .ok (.document s) := by
  cases separators <;> rfl

theorem chosenCompiler_relational (root : E) (separators : Option Separators) :
    chosenCompiler Backend.relational.word.toList (some root) separators =
      separators.elim (.error .noText) fun s => .ok (.relational root s) := by
  cases separators <;> rfl

theorem word_of_chosenCompiler {name : Text} {root : Option E} {separators : Option Separators}
    {c : Compiler E} (chosen : chosenCompiler name root separators = .ok c) :
    ∃ b : Backend, name = b.word.toList := by
  unfold chosenCompiler at chosen
  dsimp only at chosen
  split at chosen
  case isTrue document => exact ⟨.document, document⟩
  case isFalse =>
    split at chosen
    case isTrue relational => exact ⟨.relational, relational⟩
    case isFalse => cases chosen

/-- A choice of backends knows two names. Only the compiler of one of them needs a root. -/
theorem chosenCompiler_eq_ok_iff {name : Text} {root : Option E} {separators : Option Separators}
    {c : Compiler E} :
    chosenCompiler name root separators = .ok c ↔ ∃ s, separators = some s ∧
      (name = Backend.document.word.toList ∧ c = .document s ∨
        ∃ r, root = some r ∧ name = Backend.relational.word.toList ∧ c = .relational r s) := by
  constructor
  · intro chosen
    obtain ⟨b, rfl⟩ := word_of_chosenCompiler chosen
    cases b with
    | document =>
      rw [chosenCompiler_document] at chosen
      cases separators with
      | none => cases chosen
      | some s =>
        cases chosen
        exact ⟨s, rfl, .inl ⟨rfl, rfl⟩⟩
    | relational =>
      cases root with
      | none => cases chosen
      | some r =>
        rw [chosenCompiler_relational] at chosen
        cases separators with
        | none => cases chosen
        | some s =>
          cases chosen
          exact ⟨s, rfl, .inr ⟨r, rfl, rfl, rfl⟩⟩
  · rintro ⟨s, rfl, ⟨rfl, rfl⟩ | ⟨r, rfl, rfl, rfl⟩⟩
    · exact chosenCompiler_document ..
    · exact chosenCompiler_relational ..

/-- A choice of a backend makes a compiler if it can be logged and its word is known. -/
theorem makes_get_iff {settings : Settings} {id : Text} {backend : Option Text} {root : Option E}
    {c : Compiler E} :
    settings.Makes (.get id backend root) c ↔ settings.Loggable ∧
      ∃ word, settings.word? backend = some word ∧
        chosenCompiler (lowercase word) root settings.separators? = .ok c := by
  simp only [chosenCompiler_eq_ok_iff]
  constructor
  · rintro (_ | _ | ⟨⟨word, found, name⟩, logs, now⟩ | ⟨⟨word, found, name⟩, logs, now⟩)
    · exact ⟨logs, word, found, _, now, .inl ⟨name, rfl⟩⟩
    · exact ⟨logs, word, found, _, now, .inr ⟨_, rfl, name, rfl⟩⟩
  · rintro ⟨logs, word, found, s, now, ⟨name, rfl⟩ | ⟨r, rfl, name, rfl⟩⟩
    · exact .document ⟨word, found, name⟩ logs now
    · exact .relational ⟨word, found, name⟩ logs now

theorem choose_of_word {id word : Text} {backend : Option Text} {root : Option E} {level : Level}
    (found : s.settings.word? backend = some word) (logs : s.messageLevel? = some level) :
    s.choose id backend root =
      s.keepChosen id
        [⟨level, choiceLogger, "Using " ++ String.ofList (lowercase word) ++ " where compiler"⟩]
        (chosenCompiler (lowercase word) root s.settings.separators?) := by
  match backend with
  | none | some [] | some (_ :: _) =>
    simp only [Settings.word?] at found
    simp only [choose, found, logs]

theorem choose_of_not {id : Text} {backend : Option Text} {root : Option E}
    (lacks : s.settings.word? backend = none ∨ s.messageLevel? = none) :
    s.choose id backend root = s.keepChosen id [] (.error .noWord) := by
  match backend with
  | none | some [] | some (_ :: _) =>
    simp only [Settings.word?] at lacks
    simp only [choose]
    split
    case h_1 word level => simp_all
    case h_2 => rfl

/-- A choice of a backend keeps what the settings make of it. -/
theorem choose_keeps (id : Text) (backend : Option Text) (root : Option E) :
    ∃ records result, s.choose id backend root = s.keepChosen id records result ∧
      ∀ c, result = .ok c ↔ s.settings.Makes (.get id backend root) c := by
  simp only [makes_get_iff, ← s.exists_messageLevel_iff]
  cases found : s.settings.word? backend with
  | none => exact ⟨[], _, s.choose_of_not (.inl found), by simp⟩
  | some word =>
    cases logs : s.messageLevel? with
    | none => exact ⟨[], _, s.choose_of_not (.inr logs), by simp⟩
    | some level => exact ⟨_, _, s.choose_of_word found logs, by simp⟩

theorem make_plain (id : Text) (root : Option E) :
    s.make id root none none = s.keepChosen id []
      (s.settings.separators?.elim (.error .noText) fun now => .ok (.of root now)) := by
  cases found : s.settings.separators? <;> cases root <;> simp [make, found, Compiler.of]

theorem make_own (id : Text) (root : Option E) {grouping decimal : Option Text}
    (given : grouping ≠ none ∨ decimal ≠ none) :
    s.make id root grouping decimal = s.keepChosen id []
      (.ok (.of root ⟨grouping.getD [','], decimal.getD ['.']⟩)) := by
  cases grouping <;> cases decimal <;> cases root <;> first | rfl | simp at given

/-- A construction keeps what the settings make of it. -/
theorem make_keeps (id : Text) (root : Option E) (grouping decimal : Option Text) :
    ∃ result, s.make id root grouping decimal = s.keepChosen id [] result ∧
      ∀ c, result = .ok c ↔ s.settings.Makes (.make id root grouping decimal) c := by
  by_cases given : grouping ≠ none ∨ decimal ≠ none
  · refine ⟨_, s.make_own id root given, fun c => ⟨?_, ?_⟩⟩
    · rintro ⟨⟩
      exact .own given
    · rintro (_ | _)
      · simp at given
      · rfl
  · obtain ⟨rfl, rfl⟩ : grouping = none ∧ decimal = none := by simpa using given
    refine ⟨_, s.make_plain id root, fun c => ⟨fun made => ?_, ?_⟩⟩
    · cases now : s.settings.separators? with
      | none => simp [now] at made
      | some separators =>
        simp only [now, Option.elim, Except.ok.injEq] at made
        exact made ▸ .plain now
    · rintro (now | _)
      · rw [now]
        rfl
      · contradiction

/-- A request for a compiler keeps what the settings make of it. -/
theorem step_of_slot {r : Request E} {id : Text} (slot : r.slot? = some id) :
    ∃ records result, s.step layout r = s.keepChosen id records result ∧
      ∀ c, result = .ok c ↔ s.settings.Makes r c := by
  cases r with
  | get _ backend root =>
    cases slot
    exact s.choose_keeps id backend root
  | make _ root grouping decimal =>
    cases slot
    exact ⟨[], s.make_keeps id root grouping decimal⟩
  | set _ _ | setup _ | level _ _ | log _ _ _ _ | compile _ _ | read _ | readNumber _ | write _ =>
    cases slot

theorem session_logAt (level : Level) (logger text : Text) (arguments : List Text) :
    (s.logAt level logger text arguments).session = s ∧
      ∀ c, (s.logAt level logger text arguments).reply ≠ .compiler c := by
  unfold logAt
  dsimp only
  generalize (if arguments.isEmpty then some text else fillIn text arguments) = filled
  split
  all_goals exact ⟨rfl, nofun⟩

theorem session_logText (logger : Option Text) (call : LogCall) (text : Text)
    (arguments : List Text) :
    ∃ log, (s.logText logger call text arguments).session = { s with log } ∧
      ∀ c, (s.logText logger call text arguments).reply ≠ .compiler c := by
  simp only [logText]
  split
  case h_1 => exact ⟨s.log, rfl, nofun⟩
  case h_2 s' configured =>
    obtain ⟨log, rfl⟩ : ∃ log, s' = { s with log } := by
      simp only [configured?] at configured
      split at configured
      case isTrue => exact ⟨s.log, (Option.some.inj configured).symm⟩
      case isFalse =>
        obtain ⟨level, -, rfl⟩ := Option.map_eq_some_iff.mp configured
        exact ⟨_, rfl⟩
    refine ⟨log, ?_⟩
    split
    case h_1 => exact session_logAt ..
    case h_2 => exact ⟨rfl, nofun⟩

/-- Other requests leave the compilers alone, and answer with none. -/
theorem step_of_no_slot {r : Request E} (slot : r.slot? = none) :
    ∃ log, (s.step layout r).session = { s with settings := s.settings.next r, log } ∧
      ∀ c, (s.step layout r).reply ≠ .compiler c := by
  cases r with
  | get _ _ _ | make _ _ _ _ => cases slot
  | set name value =>
    simp only [step, change, Settings.next]
    cases Setting.ofName? name with
    | none => exact ⟨s.log, rfl, nofun⟩
    | some setting => exact ⟨s.log, rfl, nofun⟩
  | setup level =>
    cases level with
    | none =>
      refine ⟨s.log, rfl, ?_⟩
      simp only [step, setup]
      split
      all_goals exact nofun
    | some level => exact ⟨_, rfl, nofun⟩
  | level logger level =>
    simp only [step, setLevel]
    split
    case h_1 => exact ⟨s.log, rfl, nofun⟩
    case h_2 =>
      split
      case h_1 => exact ⟨_, rfl, nofun⟩
      case h_2 => exact ⟨s.log, rfl, nofun⟩
  | log logger call text arguments =>
    exact s.session_logText logger call text arguments
  | compile id criteria =>
    simp only [step, compile]
    split
    case h_1 => exact ⟨s.log, rfl, nofun⟩
    case h_2 => exact ⟨s.log, rfl, nofun⟩
    case h_3 =>
      split
      all_goals exact ⟨s.log, rfl, nofun⟩
  | read text => exact ⟨s.log, rfl, nofun⟩
  | readNumber text => exact ⟨s.log, rfl, nofun⟩
  | write v =>
    simp only [step]
    split
    all_goals exact ⟨s.log, rfl, nofun⟩

/-! ## What a request does to the compilers -/

theorem lookup_keep_self (id : Text) (c : Compiler E) :
    (s.keep id c).compilers.lookup id = some c := by
  simp [keep]

theorem lookup_keep_of_ne {id other : Text} (c : Compiler E) (ne : other ≠ id) :
    (s.keep id c).compilers.lookup other = s.compilers.lookup other := by
  have apart : (other == id) = false := by simpa using ne
  simp only [keep, List.lookup_cons, apart]
  induction s.compilers with
  | nil => rfl
  | cons kept compilers ih =>
    obtain ⟨name, c⟩ := kept
    by_cases same : name = id
    · simp [same, List.lookup_cons, apart, ih]
    · simp [same, List.lookup_cons, ih]

theorem lookup_keepChosen_of_ne {id other : Text} (records : List Record)
    (result : Except SessionError (Compiler E)) (ne : other ≠ id) :
    (s.keepChosen id records result).session.compilers.lookup other = s.compilers.lookup other := by
  cases result with
  | ok c => exact s.lookup_keep_of_ne c ne
  | error e => rfl

theorem slot_of_makes {settings : Settings} {r : Request E} {c : Compiler E}
    (makes : settings.Makes r c) : ∃ id, r.slot? = some id := by
  cases makes <;> exact ⟨_, rfl⟩

/-- A step answers with the compiler that the settings of the moment make. -/
theorem reply_step_iff {r : Request E} {c : Compiler E} :
    (s.step layout r).reply = .compiler c ↔ s.settings.Makes r c := by
  cases slot : r.slot? with
  | none =>
    obtain ⟨-, -, other⟩ := s.step_of_no_slot layout slot
    refine ⟨fun reply => absurd reply (other c), fun makes => ?_⟩
    obtain ⟨id, some⟩ := slot_of_makes makes
    cases slot.symm.trans some
  | some id =>
    obtain ⟨records, result, step, makes⟩ := s.step_of_slot layout slot
    rw [step, ← makes]
    cases result <;> simp [keepChosen, answer]

theorem settings_step (r : Request E) :
    (s.step layout r).session.settings = s.settings.next r := by
  cases slot : r.slot? with
  | none =>
    obtain ⟨log, session, -⟩ := s.step_of_no_slot layout slot
    rw [session]
  | some id =>
    obtain ⟨records, result, step, -⟩ := s.step_of_slot layout slot
    have same : s.settings.next r = s.settings := by
      cases r <;> first | rfl | cases slot
    rw [step, same]
    cases result <;> rfl

/-- A step that makes a compiler keeps it under its name. -/
theorem lookup_step_of_makes {r : Request E} {id : Text} {c : Compiler E}
    (slot : r.slot? = some id) (makes : s.settings.Makes r c) :
    (s.step layout r).session.compilers.lookup id = some c := by
  obtain ⟨records, result, step, made⟩ := s.step_of_slot layout slot
  rw [step, (made c).mpr makes]
  exact s.lookup_keep_self id c

/-- A step keeps the compiler under a name for which it makes none. -/
theorem lookup_step_of_spares {r : Request E} {id : Text}
    (spares : r.slot? = some id → ∀ c, ¬ s.settings.Makes r c) :
    (s.step layout r).session.compilers.lookup id = s.compilers.lookup id := by
  cases slot : r.slot? with
  | none =>
    obtain ⟨log, session, -⟩ := s.step_of_no_slot layout slot
    rw [session]
  | some other =>
    obtain ⟨records, result, step, made⟩ := s.step_of_slot layout slot
    rw [step]
    by_cases same : id = other
    · subst same
      cases result with
      | ok c => exact absurd ((made c).mp rfl) (spares slot c)
      | error e => rfl
    · exact s.lookup_keepChosen_of_ne records result same

/-! ## What a run does to them -/

theorem after_append (before rest : List (Request E)) :
    s.after layout (before ++ rest) = (s.after layout before).after layout rest :=
  List.foldl_append

theorem after_cons (r : Request E) (rs : List (Request E)) :
    s.after layout (r :: rs) = (s.step layout r).session.after layout rs :=
  rfl

theorem settings_after (rs : List (Request E)) :
    (s.after layout rs).settings = s.settings.after rs := by
  induction rs generalizing s with
  | nil => rfl
  | cons r rs ih =>
    rw [after_cons, ih, settings_step]
    rfl

theorem lookup_after_of_spares {id : Text} {rs : List (Request E)}
    (spares : s.settings.Spares id rs) :
    (s.after layout rs).compilers.lookup id = s.compilers.lookup id := by
  induction rs generalizing s with
  | nil => rfl
  | cons r rs ih =>
    obtain ⟨first, later⟩ := spares
    rw [← s.settings_step layout r] at later
    rw [after_cons, ih _ later, s.lookup_step_of_spares layout first]

/-- Each step of a run starts from what the requests before it left. -/
theorem getElem?_run (before rest : List (Request E)) (r : Request E) :
    (s.run layout (before ++ r :: rest))[before.length]? =
      some ((s.after layout before).step layout r) := by
  induction before generalizing s with
  | nil => rfl
  | cons first before ih => exact ih (s.step layout first).session

theorem reply_compile {id : Text} {c : Compiler E} (kept : s.compilers.lookup id = some c)
    (criteria : List RawCriterion) :
    (s.step layout (.compile id (.ok criteria))).reply = c.answer layout criteria := by
  simp only [step, compile, kept, Compiler.answer]
  split <;> simp [*, answer, Reply.ofResult]

/-- **Compilers are frozen.** Whatever a session does, a request for a compiler is answered by the
one that the settings of that moment make, with their separators and, where no backend is named, for
their backend. From then on, until another compiler takes its name, it answers criteria as it would
all by itself: changes to the settings and to the log, other compilers and what they are asked do
not matter. The same holds for the compilers that are there from the start. -/
theorem answers_as_made (before between rest : List (Request E)) (r : Request E) (id : Text)
    (criteria : List RawCriterion) :
    let requests := before ++ r :: between ++ .compile id (.ok criteria) :: rest
    let reply? (i : Nat) := (s.run layout requests)[i]?.map Step.reply
    let now := s.settings.after before
    (∀ c, reply? before.length = some (.compiler c) ↔ now.Makes r c) ∧
    (∀ c, r.slot? = some id → now.Makes r c → (now.next r).Spares id between →
      reply? (before ++ r :: between).length = some (c.answer layout criteria)) ∧
    ∀ c, s.compilers.lookup id = some c → s.settings.Spares id (before ++ r :: between) →
      reply? (before ++ r :: between).length = some (c.answer layout criteria) := by
  intro requests reply? now
  have settings : (s.after layout before).settings = now := s.settings_after layout before
  have made : reply? before.length = some ((s.after layout before).step layout r).reply := by
    have split : requests = before ++ r :: (between ++ .compile id (.ok criteria) :: rest) := by
      simp [requests]
    simp only [reply?, split, getElem?_run, Option.map_some]
  have asked : reply? (before ++ r :: between).length =
      some ((s.after layout (before ++ r :: between)).step layout
        (.compile id (.ok criteria))).reply := by
    simp only [reply?, requests, getElem?_run, Option.map_some]
  refine ⟨fun c => ?_, fun c slot makes spares => ?_, fun c kept spares => ?_⟩
  · rw [made, Option.some_inj, reply_step_iff, settings]
  · rw [asked, reply_compile]
    rw [after_append, after_cons, lookup_after_of_spares]
    · exact lookup_step_of_makes layout _ slot (settings ▸ makes)
    · rwa [settings_step, settings]
  · rw [asked, reply_compile]
    exact (s.lookup_after_of_spares layout spares).trans kept

/-- A compiler that was made while numbers had a decimal comma reads them so still when they have a
point again and another compiler, made since, was asked the same. -/
theorem answers_as_made_comma :
    let comma : Request OrderBook := .set "NUMBER_DECIMAL_SEPARATOR" (.text [','])
    let point : Request OrderBook := .set "NUMBER_DECIMAL_SEPARATOR" (.text ['.'])
    let a : Text := "a".toList
    let b : Text := "b".toList
    let c : RawCriterion :=
      { key := some "size".toList, op := .known (.compare .ge), value := some "1,5".toList,
        valueType := some (.known .number) }
    let compiler : Compiler OrderBook := .document ⟨[','], [',']⟩
    let steps := ({} : Session OrderBook).run OrderBook.layout
      [comma, .make a none none none, point, .make b none none none, .compile b (.ok [c]),
        .compile a (.ok [c])]
    steps[1]?.map Step.reply = some (.compiler compiler) ∧
      steps[5]?.map Step.reply = some (compiler.answer OrderBook.layout [c]) := by
  intro comma point a b c compiler steps
  obtain ⟨made, answered, -⟩ := answers_as_made OrderBook.layout {} [comma]
    [point, .make b none none none, .compile b (.ok [c])] [] (.make a none none none) a [c]
  have makes : (({} : Settings).after [comma]).Makes (.make a none none none) compiler :=
    .plain (s := ⟨[','], [',']⟩) rfl
  have other : some b ≠ some a := by decide
  refine ⟨(made compiler).mpr makes, answered compiler rfl makes ?_⟩
  exact ⟨nofun, fun same => absurd same other, nofun, trivial⟩

end Session

end Criteria
