import Criteria.Proofs.Relational.Statement
import Mathlib.Data.List.Basic

/-!
# Names of placeholders

A client finds the parameters of a statement by their names: it reads a name behind every colon of
the text and looks it up. The names are different, since every placeholder is numbered among those of
its column name, wherever in the statement the other ones stand. And reading the text finds them all,
as long as the names of tables and columns are made of letters, digits and underscores.
-/

namespace Criteria
set_option autoImplicit false

variable {E : Type}

/-! ## Numbering -/

/-- Before and behind the last one of several separators the same stands on both sides. -/
theorem append_cons_inj {α : Type} {x : α} {as bs ds es : List α} (left : x ∉ ds) (right : x ∉ es)
    (same : as ++ x :: ds = bs ++ x :: es) : as = bs ∧ ds = es := by
  rcases List.append_eq_append_iff.1 same with ⟨cs, rfl, rest⟩ | ⟨cs, rfl, rest⟩
  · cases cs with
    | nil => exact ⟨(List.append_nil as).symm, List.tail_eq_of_cons_eq rest⟩
    | cons c cs =>
      obtain rfl := List.tail_eq_of_cons_eq rest
      exact absurd (List.mem_append_right cs List.mem_cons_self) left
  · cases cs with
    | nil => exact ⟨List.append_nil bs, (List.tail_eq_of_cons_eq rest).symm⟩
    | cons c cs =>
      obtain rfl := List.tail_eq_of_cons_eq rest
      exact absurd (List.mem_append_right cs List.mem_cons_self) right

namespace Statement

theorem placeholderName_toList (earlier : List String) (column : String) :
    (placeholderName earlier column).toList =
      column.toList ++ '_' :: Nat.toDigits 10 (earlier.count column + 1) := by
  rw [placeholderName, String.toList_append, String.toList_append, Nat.toString_eq_ofList_toDigits,
    List.append_assoc]
  exact congrArg (column.toList ++ '_' :: ·) String.toList_ofList

theorem not_mem_toDigits (n : Nat) : '_' ∉ Nat.toDigits 10 n := by
  intro mem
  cases Nat.isDigit_of_mem_toDigits (by decide) (by decide) mem

/-- A name tells the column and how many placeholders of the column stand before. -/
theorem placeholderName_inj {earlier later : List String} {column other : String}
    (same : placeholderName earlier column = placeholderName later other) :
    column = other ∧ earlier.count column = later.count other := by
  have chars := congrArg String.toList same
  rw [placeholderName_toList, placeholderName_toList] at chars
  obtain ⟨columns, digits⟩ := append_cons_inj (not_mem_toDigits _) (not_mem_toDigits _) chars
  have counts := congrArg (Nat.ofDigitChars 10 · 0) digits
  simp only [Nat.ofDigitChars_ten_toDigits] at counts
  exact ⟨String.toList_inj.1 columns, by omega⟩

theorem exists_of_mem_number {earlier : List String} {operands : List (String × Value)}
    {name : String} (mem : name ∈ (number earlier operands).map (·.1)) :
    ∃ before column, name = placeholderName (before ++ earlier) column := by
  induction operands generalizing earlier with
  | nil => cases mem
  | cons operand rest ih =>
    obtain ⟨column, value⟩ := operand
    rcases List.mem_cons.1 mem with rfl | mem
    · exact ⟨[], column, rfl⟩
    · obtain ⟨before, other, rfl⟩ := ih mem
      exact ⟨before ++ [column], other, by rw [List.append_assoc, List.singleton_append]⟩

/-- No two placeholders have the same name. -/
theorem nodup_number (earlier : List String) (operands : List (String × Value)) :
    ((number earlier operands).map (·.1)).Nodup := by
  induction operands generalizing earlier with
  | nil => exact List.nodup_nil
  | cons operand rest ih =>
    obtain ⟨column, value⟩ := operand
    refine List.nodup_cons.2 ⟨?_, ih (column :: earlier)⟩
    intro mem
    -- The later placeholder of the same column has at least one more before it.
    obtain ⟨before, other, same⟩ := exists_of_mem_number mem
    obtain ⟨rfl, counts⟩ := placeholderName_inj same
    rw [List.count_append, List.count_cons_self] at counts
    omega

theorem map_snd_number (earlier : List String) (operands : List (String × Value)) :
    (number earlier operands).map (·.2) = operands.map (·.2) := by
  induction operands generalizing earlier with
  | nil => rfl
  | cons operand rest ih => exact congrArg (operand.2 :: ·) (ih (operand.1 :: earlier))

/-! ## Reading the names -/

/-- Whether the character may stand in the name of a placeholder. -/
def isNameChar (c : Char) : Bool := c.isAlphanum || c == '_'

/-- The names behind the colons of a text, from left to right. -/
def placeholders : Text → List Text
  | [] => []
  | c :: rest =>
    if c == ':' then rest.takeWhile isNameChar :: placeholders rest else placeholders rest

theorem placeholders_append {t : Text} (plain : ':' ∉ t) (rest : Text) :
    placeholders (t ++ rest) = placeholders rest := by
  induction t with
  | nil => rfl
  | cons c t ih =>
    have ne : c ≠ ':' := fun eq => plain (eq ▸ List.mem_cons_self)
    rw [List.cons_append, placeholders, if_neg (by simpa using ne)]
    exact ih fun mem => plain (List.mem_cons_of_mem c mem)

/-- The string has no colon, so that no placeholder is read in it. -/
def Plain (s : String) : Prop := ':' ∉ s.toList

instance (s : String) : Decidable (Plain s) := inferInstanceAs (Decidable (':' ∉ s.toList))

theorem Plain.append {s t : String} (left : Plain s) (right : Plain t) : Plain (s ++ t) := by
  intro mem
  rw [String.toList_append] at mem
  rcases List.mem_append.1 mem with mem | mem
  · exact left mem
  · exact right mem

/-- The string is made of the characters of names alone. -/
def IsName (name : String) : Prop := ∀ c ∈ name.toList, isNameChar c = true

instance (name : String) : Decidable (IsName name) :=
  decidable_of_iff (name.toList.all isNameChar = true) List.all_eq_true

theorem IsName.plain {name : String} (h : IsName name) : Plain name := by
  intro mem
  cases h ':' mem

theorem IsName.placeholderName {column : String} (h : IsName column) (earlier : List String) :
    IsName (placeholderName earlier column) := by
  intro c mem
  rw [placeholderName_toList, List.mem_append, List.mem_cons] at mem
  rcases mem with mem | rfl | mem
  · exact h c mem
  · rfl
  · have digit := Nat.isDigit_of_mem_toDigits (by decide) (by decide) mem
    simp [isNameChar, Char.isAlphanum, digit]

/-- The text does not go on with a name that stands before it. -/
def Stops : List Fragment → Prop
  | [] | .placeholder _ _ :: _ => True
  | .sql text :: _ => ∃ c rest, text.toList = c :: rest ∧ isNameChar c = false

/-- Placeholders can be told from the text around them. -/
def Legible : List Fragment → Prop
  | [] => True
  | .sql text :: rest => Plain text ∧ Legible rest
  | .placeholder column _ :: rest => IsName column ∧ Stops rest ∧ Legible rest

theorem Legible.sql {text : String} (plain : Plain text) {rest : List Fragment}
    (legible : Legible rest) : Legible (.sql text :: rest) := ⟨plain, legible⟩

theorem legible_nil : Legible [] := True.intro

theorem takeWhile_of_stops {fragments : List Fragment} (stops : Stops fragments)
    (earlier : List String) :
    (assemble earlier fragments).text.toList.takeWhile isNameChar = [] := by
  match fragments with
  | [] => rfl
  | .placeholder column value :: rest =>
    rw [assemble, String.toList_append, String.toList_append]
    rfl
  | .sql text :: rest =>
    obtain ⟨c, tail, chars, stop⟩ := stops
    rw [assemble, String.toList_append, chars, List.cons_append, List.takeWhile_cons, stop]
    rfl

/-- **Reading the text of a statement gives the names of its parameters**, in their order. -/
theorem placeholders_assemble {fragments : List Fragment} (legible : Legible fragments)
    (earlier : List String) :
    placeholders (assemble earlier fragments).text.toList =
      (assemble earlier fragments).parameters.map (·.1.toList) := by
  induction fragments generalizing earlier with
  | nil => rfl
  | cons f rest ih =>
    cases f with
    | sql text =>
      rw [assemble, String.toList_append, placeholders_append legible.1]
      exact ih legible.2 earlier
    | placeholder column value =>
      obtain ⟨isName, stops, legible⟩ := legible
      have name := isName.placeholderName earlier
      have chars : (":" ++ placeholderName earlier column ++
          (assemble (column :: earlier) rest).text).toList =
          ':' :: ((placeholderName earlier column).toList ++
            (assemble (column :: earlier) rest).text.toList) := by
        rw [String.toList_append, String.toList_append]
        rfl
      rw [assemble, chars, placeholders, if_pos (beq_self_eq_true ':'),
        List.takeWhile_append_of_pos name, takeWhile_of_stops stops, List.append_nil,
        placeholders_append name.plain, ih legible (column :: earlier)]
      rfl

theorem Stops.append {fs gs : List Fragment} (left : Stops fs) (right : Stops gs) :
    Stops (fs ++ gs) := by
  match fs with
  | [] => exact right
  | .placeholder _ _ :: _ | .sql _ :: _ => exact left

theorem Legible.append {fs gs : List Fragment} (left : Legible fs) (right : Legible gs)
    (stops : Stops gs) : Legible (fs ++ gs) := by
  induction fs with
  | nil => exact right
  | cons f fs ih =>
    cases f with
    | sql text => exact ⟨left.1, ih left.2⟩
    | placeholder column value => exact ⟨left.1, left.2.1.append stops, ih left.2.2⟩

/-- A statement whose placeholders are those of its parameters, with the given values. -/
structure Fits (statement : Statement) (values : List Value) : Prop where
  /-- Reading the text gives the names of the parameters, in their order. -/
  read : placeholders statement.text.toList = statement.parameters.map (·.1.toList)
  /-- No two parameters have the same name. -/
  distinct : (statement.parameters.map (·.1)).Nodup
  values : statement.parameters.map (·.2) = values

theorem fits_ofFragments {fragments : List Fragment} (legible : Legible fragments) :
    (ofFragments fragments).Fits ((fragments.filterMap Fragment.placeholder?).map (·.2)) where
  read := placeholders_assemble legible []
  distinct := by
    rw [ofFragments, parameters_assemble]
    exact nodup_number [] _
  values := by
    rw [ofFragments, parameters_assemble, map_snd_number]

end Statement

/-! ## Clauses -/

open Statement (IsName Legible Plain Stops legible_nil)

/-- The names of the tables and columns are made of the characters of names alone. -/
structure Schema.Layout.Named {schema : Schema E} (layout : schema.Layout) : Prop where
  table : ∀ e, IsName (layout.table e)
  identity : ∀ e, IsName (layout.identity e)
  column : ∀ e, ∀ name ∈ schema.columns e, IsName name
  foreignKey : ∀ e, ∀ r ∈ schema.relationships e, IsName r.foreignKey

/-- The columns in the clause have names of such characters. -/
def Clause.Named : Clause E → Prop
  | .null column _ | .truth column _ _ | .bound column _ _ => IsName column.name
  | .related _ _ hop condition => IsName hop.foreignKey ∧ condition.Named
  | .occupied _ hop _ => IsName hop.foreignKey
  | .constant _ => True

namespace Schema.Layout

variable {schema : Schema E} {layout : schema.Layout} (named : layout.Named)
include named

theorem plain_columnText {c : Column E} (name : IsName c.name) : Plain (layout.columnText c) :=
  ((named.table c.entity).plain.append (by decide)).append name.plain

theorem plain_joinText (source : E) {r : Relationship E} (name : IsName r.foreignKey) :
    Plain (layout.joinText source r) := by
  have referenced : Plain (layout.columnText (layout.referenced source r)) := by
    apply plain_columnText named
    unfold Layout.referenced
    split <;> exact named.identity _
  have foreignKey : Plain (layout.columnText (foreignKey source r)) := by
    apply plain_columnText named
    unfold Schema.foreignKey
    split <;> exact name
  exact (referenced.append (by decide)).append foreignKey

theorem plain_selectText (nested : Bool) (source : E) {r : Relationship E}
    (name : IsName r.foreignKey) : Plain (layout.selectText nested source r) := by
  have target : Plain ("SELECT 1 \nFROM " ++ layout.table r.target) :=
    Plain.append (by decide) (named.table r.target).plain
  have outer : Plain (if nested then "" else ", " ++ layout.table source) := by
    split
    · decide
    · exact Plain.append (by decide) (named.table source).plain
  exact ((target.append outer).append (by decide)).append (plain_joinText named source name)

end Schema.Layout

namespace Clause

open Schema.Layout (plain_columnText plain_selectText)

theorem stops_parenthesis : Stops [.sql ")"] := ⟨')', [], rfl, rfl⟩

theorem legible_parenthesis : Legible [.sql ")"] := .sql (by decide) legible_nil

theorem plain_truthText (b : Bool) : Plain (truthText b) := by
  cases b <;> decide

theorem legible_enclose (clause : Clause E) {fragments : List Fragment}
    (legible : Legible fragments) : Legible (clause.enclose fragments) := by
  unfold enclose
  split
  · exact .sql (by decide) (legible.append legible_parenthesis stops_parenthesis)
  · exact legible

theorem legible_fragments {schema : Schema E} {layout : schema.Layout} (named : layout.Named)
    {clause : Clause E} (names : clause.Named) (nested : Bool) :
    Legible (clause.fragments layout nested) := by
  induction clause generalizing nested with
  | null column negated =>
    rw [fragments]
    refine .sql ((plain_columnText named names).append ?_) legible_nil
    cases negated <;> decide
  | truth column negated value =>
    rw [fragments]
    refine .sql (((plain_columnText named names).append ?_).append (plain_truthText value))
      legible_nil
    cases negated <;> decide
  | bound column comparison value =>
    rw [fragments]
    have sign : Plain comparison.sqlSign := by cases comparison <;> decide
    have start := (plain_columnText named names).append (t := " ") (by decide)
    exact .sql ((start.append sign).append (by decide)) ⟨names, True.intro, legible_nil⟩
  | related quantifier source hop condition ih =>
    rw [fragments]
    have query := Plain.append (s := "EXISTS (") (by decide)
      (plain_selectText named nested source names.1)
    have inner := condition.legible_enclose (ih names.2 true)
    exact .sql (query.append (by decide)) (inner.append legible_parenthesis stops_parenthesis)
  | occupied source hop negated =>
    rw [fragments]
    have query := (Plain.append (s := "EXISTS (") (by decide)
      (plain_selectText named nested source names)).append (t := ")") (by decide)
    refine .sql ?_ legible_nil
    cases negated with
    | true => exact (Plain.append (by decide) query).append (by decide)
    | false => exact query
  | constant value => exact .sql (plain_truthText value) legible_nil

end Clause

/-! ## Conjunctions -/

namespace Conjunction

theorem legible_intercalate {parts : List (List Fragment)} (legible : ∀ part ∈ parts, Legible part) :
    Legible (List.intercalate [.sql " AND "] parts) := by
  induction parts with
  | nil => exact True.intro
  | cons part parts ih =>
    have head := legible part List.mem_cons_self
    have tail := ih fun other mem => legible other (List.mem_cons_of_mem part mem)
    cases parts with
    | nil =>
      rw [List.intercalate_singleton]
      exact head
    | cons other parts =>
      rw [List.intercalate_cons_cons, List.append_assoc, List.singleton_append]
      exact head.append (.sql (by decide) tail) ⟨' ', _, rfl, rfl⟩

theorem placeholders_intercalate (separator : String) (parts : List (List Fragment)) :
    (List.intercalate [.sql separator] parts).filterMap Fragment.placeholder? =
      parts.flatMap (List.filterMap Fragment.placeholder?) := by
  induction parts with
  | nil => rfl
  | cons part parts ih =>
    cases parts with
    | nil => rw [List.intercalate_singleton, List.flatMap_singleton]
    | cons other parts =>
      rw [List.intercalate_cons_cons, List.filterMap_append, List.filterMap_append, ih,
        List.flatMap_cons]
      exact congrArg (· ++ _) (List.append_nil _)

variable {schema : Schema E} {layout : schema.Layout} {clauses : List (Clause E)}

theorem legible_joined (named : layout.Named) (names : ∀ clause ∈ clauses, clause.Named) :
    Legible (joined layout clauses) := by
  match clauses with
  | [] => exact legible_nil
  | [clause] => exact clause.legible_fragments named (names clause List.mem_cons_self) false
  | clause :: other :: rest =>
    apply legible_intercalate
    intro part mem
    obtain ⟨c, inside, rfl⟩ := List.mem_map.1 mem
    exact c.legible_enclose (c.legible_fragments named (names c inside) false)

/-- What is left of a conjunction are clauses of it, or constants. -/
theorem named_essential (names : ∀ clause ∈ clauses, clause.Named) :
    ∀ clause ∈ essential clauses, clause.Named := by
  intro clause mem
  unfold essential at mem
  split at mem
  · rw [List.mem_singleton.1 mem]
    exact True.intro
  · split at mem
    · rw [List.mem_singleton.1 mem]
      exact True.intro
    · exact names clause (List.mem_filter.1 mem).1

theorem legible_fragments (named : layout.Named) (names : ∀ clause ∈ clauses, clause.Named) :
    Legible ((ofList clauses).fragments layout) := by
  match clauses with
  | [] => exact legible_nil
  | [clause] =>
    cases constant : clause.constant? with
    | none =>
      rw [ofList, fragments_single layout constant]
      exact clause.legible_fragments named (names clause List.mem_cons_self) false
    | some value =>
      rw [Clause.constant?_eq_some_iff.1 constant]
      exact .sql (by cases value <;> decide) legible_nil
  | clause :: other :: rest => exact legible_joined named (named_essential names)

/-- Each clause has its own placeholder, if it has any, in the order of the clauses. -/
theorem placeholders_joined (layout : schema.Layout) (clauses : List (Clause E)) :
    (joined layout clauses).filterMap Fragment.placeholder? =
      clauses.filterMap Clause.operand? := by
  match clauses with
  | [] => rfl
  | [clause] =>
    rw [joined, Clause.placeholders_fragments]
    cases operand : clause.operand? <;> simp [operand]
  | clause :: other :: rest =>
    have fragments_eq : joined layout (clause :: other :: rest) =
        List.intercalate [.sql " AND "] ((clause :: other :: rest).map fun c =>
          c.enclose (c.fragments layout false)) := rfl
    rw [fragments_eq, placeholders_intercalate, List.flatMap_map, List.filterMap_eq_flatMap_toList]
    simp only [Clause.placeholders_enclose, Clause.placeholders_fragments]

/-- Constants bind nothing, so they are not missed. -/
theorem operands_essential (possible : .constant false ∉ clauses) :
    (essential clauses).filterMap Clause.operand? = clauses.filterMap Clause.operand? := by
  have free : (clauses.filter (·.constant?.isNone)).filterMap Clause.operand? =
      clauses.filterMap Clause.operand? := by
    rw [List.filterMap_filter]
    congr 1
    funext clause
    cases clause <;> rfl
  rw [essential_of_not_false possible, ← free]
  cases clauses.filter (·.constant?.isNone) <;> rfl

/-- The placeholders of a conjunction are those of its clauses, unless a false constant stands for
all of them. -/
theorem placeholders_fragments (layout : schema.Layout) (possible : .constant false ∉ clauses) :
    ((ofList clauses).fragments layout).filterMap Fragment.placeholder? =
      clauses.filterMap Clause.operand? := by
  match clauses with
  | [] => rfl
  | [clause] =>
    cases constant : clause.constant? with
    | none =>
      rw [fragments_of_noConstants layout (List.forall_mem_singleton.2 constant),
        placeholders_joined]
    | some value =>
      rw [Clause.constant?_eq_some_iff.1 constant]
      rfl
  | clause :: other :: rest =>
    rw [← operands_essential possible]
    exact placeholders_joined layout _

theorem placeholders_of_false (layout : schema.Layout) (refuted : .constant false ∈ clauses) :
    ((ofList clauses).fragments layout).filterMap Fragment.placeholder? = [] := by
  match clauses with
  | [clause] =>
    rw [← List.mem_singleton.1 refuted]
    rfl
  | clause :: other :: rest =>
    show (joined layout (essential _)).filterMap _ = _
    rw [placeholders_joined, essential_of_false refuted]
    rfl

/-- The statement of a conjunction has the values of its clauses, each under a name of its own. A
false constant leaves it without any. -/
theorem fits_statement (named : layout.Named) (names : ∀ clause ∈ clauses, clause.Named)
    {statement : Statement} (written : (ofList clauses).statement? layout = some statement) :
    (.constant false ∈ clauses → statement.Fits []) ∧
      (.constant false ∉ clauses →
        statement.Fits ((clauses.filterMap Clause.operand?).map (·.2))) := by
  have fits := Statement.fits_ofFragments (legible_fragments named names)
  have eq : statement = .ofFragments ((ofList clauses).fragments layout) := by
    match clauses with
    | [] => cases written
    | [_] | _ :: _ :: _ => exact (Option.some.inj written).symm
  rw [← eq] at fits
  constructor
  · intro refuted
    rw [placeholders_of_false layout refuted] at fits
    exact fits
  · intro possible
    rw [placeholders_fragments layout possible] at fits
    exact fits

end Conjunction

end Criteria
