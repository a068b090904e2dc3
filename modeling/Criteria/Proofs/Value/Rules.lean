import Criteria.Proofs.Number.Reading
import Criteria.Proofs.Time.Timestamp
import Criteria.Proofs.Value.Nesting

/-!
# The order of the rules

At most one of the rules for scalars takes a text, and only a number can be a list as well: grouping
may be a comma. So each text is of one kind, and the order of the rules does not matter as long as
lists are tried before numbers.
-/

namespace Criteria
set_option autoImplicit false

open Commas (isList split unescape)

/-! ## Rules that exclude one another -/

section Marks

variable {t : Text}

theorem marks_of_read? {d : DateTime} (h : Timestamp.read? t = some d) :
    readBool t = none ∧ looksNumeric t = false ∧ isList t = false := by
  obtain ⟨mark, dash⟩ := mem_of_read? h
  have comma : ',' ∉ t := by
    intro mem
    rcases Timestamp.isDecimalDigit_of_read? h ',' mem with digit | mark
    · exact absurd digit (by decide)
    · exact absurd mark (by decide)
  exact ⟨(not_word isCaseless_hyphen (by decide) dash).2,
    looksNumeric_of_mem mark (by decide) (by decide), Commas.isList_eq_false comma⟩

theorem marks_of_looksNumeric (h : looksNumeric t = true) :
    isNull t = false ∧ readBool t = none ∧ Timestamp.read? t = none := by
  obtain ⟨negative, c, rest, eq, digit⟩ := exists_of_looksNumeric h
  have mem : c ∈ t := by
    rw [eq]
    exact List.mem_append_right _ List.mem_cons_self
  have word := not_word_of_isDecimalDigit digit mem
  refine ⟨word.1, word.2, ?_⟩
  cases time : Timestamp.read? t with
  | none => rfl
  | some d =>
    rw [(marks_of_read? time).2.1] at h
    cases h

theorem marks_of_isList (h : isList t = true) :
    isNull t = false ∧ readBool t = none ∧ Timestamp.read? t = none := by
  have word := not_word isCaseless_comma (by decide) (Commas.mem_of_hasBare h)
  refine ⟨word.1, word.2, ?_⟩
  cases time : Timestamp.read? t with
  | none => rfl
  | some d =>
    rw [(marks_of_read? time).2.2] at h
    cases h

end Marks

namespace ScalarRule

variable {s : Separators} {t : Text}

theorem read_number_eq_some_iff {a : Scalar} :
    number.read s t = some a ↔
      looksNumeric t = true ∧ ∃ n, readNumber s t = some n ∧ a = .number n := by
  cases looks : looksNumeric t with
  | false => simp [read, looks]
  | true => simp [read, looks, eq_comm]

/-- No rule makes a text of a text. -/
theorem read_ne_text {r : ScalarRule} {u : Text} : r.read s t ≠ some (.text u) := by
  cases r with
  | bool | timestamp => simp [read]
  | number =>
    rw [ne_eq, read_number_eq_some_iff]
    simp

theorem read_eq_none_of_looksNumeric (h : looksNumeric t = true) {r : ScalarRule}
    (other : r ≠ number) : r.read s t = none := by
  obtain ⟨-, noWord, noTime⟩ := marks_of_looksNumeric h
  cases r with
  | bool => rw [read, noWord, Option.map_none]
  | timestamp => rw [read, noTime, Option.map_none]
  | number => exact absurd rfl other

/-- **At most one of the rules for scalars takes a text.** -/
theorem read_eq_none {r r' : ScalarRule} {a : Scalar} (h : r.read s t = some a) (other : r' ≠ r) :
    r'.read s t = none := by
  cases r with
  | bool =>
    obtain ⟨b, word, -⟩ := Option.map_eq_some_iff.1 h
    cases r' with
    | bool => exact absurd rfl other
    | timestamp =>
      cases time : Timestamp.read? t with
      | none => rw [read, time, Option.map_none]
      | some d =>
        rw [(marks_of_read? time).1] at word
        cases word
    | number =>
      cases looks : looksNumeric t with
      | false => rw [read, looks, if_neg Bool.false_ne_true]
      | true =>
        rw [(marks_of_looksNumeric looks).2.1] at word
        cases word
  | timestamp =>
    obtain ⟨d, time, -⟩ := Option.map_eq_some_iff.1 h
    obtain ⟨noWord, noNumber, -⟩ := marks_of_read? time
    cases r' with
    | bool => rw [read, noWord, Option.map_none]
    | timestamp => exact absurd rfl other
    | number => rw [read, noNumber, if_neg Bool.false_ne_true]
  | number => exact read_eq_none_of_looksNumeric (read_number_eq_some_iff.1 h).1 other

end ScalarRule

/-! ## Any order -/

/-- If a single member of the list has a result, it is found wherever the member stands. -/
theorem findSome?_of_only {α β : Type} {f : α → Option β} {as : List α} {a : α} {b : β}
    (mem : a ∈ as) (result : f a = some b) (only : ∀ a' ∈ as, a' ≠ a → f a' = none) :
    as.findSome? f = some b := by
  cases found : as.findSome? f with
  | none =>
    rw [List.findSome?_eq_none_iff.1 found a mem] at result
    cases result
  | some b' =>
    obtain ⟨a', mem', result'⟩ := List.exists_of_findSome?_eq_some found
    by_cases same : a' = a
    · rw [← result, ← result', same]
    · rw [only a' mem' same] at result'
      cases result'

section Orders

variable {rules : List Rule} {s : Separators} {item : Text → Value} {t : Text}

theorem readWith_eq_none_of_isList (list : isList t = true) {r : Rule} (noList : r ≠ .list)
    (noNumber : r ≠ .scalar .number) : r.readWith s item t = none := by
  obtain ⟨-, noWord, noTime⟩ := marks_of_isList list
  match r with
  | .list => exact absurd rfl noList
  | .scalar .bool => simp [Rule.readWith, ScalarRule.read, noWord]
  | .scalar .timestamp => simp [Rule.readWith, ScalarRule.read, noTime]
  | .scalar .number => exact absurd rfl noNumber

theorem readWith_eq_none_of_scalar (bare : isList t = false) {rule : ScalarRule} {a : Scalar}
    (h : rule.read s t = some a) {r : Rule} (other : r ≠ .scalar rule) :
    r.readWith s item t = none := by
  cases r with
  | list => simp [Rule.readWith, bare]
  | scalar rule' =>
    have none := ScalarRule.read_eq_none h fun same => other (congrArg _ same)
    rw [Rule.readWith, none, Option.map_none]

/-- A text with a bare comma is taken by the rule for lists, if it is tried before the one for
numbers. -/
theorem findSome?_of_isList (perm : rules.Perm Rule.all)
    (before : [Rule.list, .scalar .number].Sublist rules) (list : isList t = true) :
    rules.findSome? (·.readWith s item t) = some (.list ((split t).map item)) := by
  obtain ⟨early, late, rfl, mem, sub⟩ := List.cons_sublist_iff.1 before
  have number : Rule.scalar .number ∈ late := List.singleton_sublist.1 sub
  have nodup : (early ++ late).Nodup := perm.nodup_iff.2 (by decide)
  have apart := (List.nodup_append.1 nodup).2.2
  have taken : Rule.list.readWith s item t = some (.list ((split t).map item)) := by
    rw [Rule.readWith, if_pos list]
  have only (r : Rule) (member : r ∈ early) (other : r ≠ .list) : r.readWith s item t = none :=
    readWith_eq_none_of_isList list other (apart r member _ number)
  rw [List.findSome?_append, findSome?_of_only mem taken only]
  rfl

/-- A text without bare commas is taken by the same rule in any order. -/
theorem findSome?_of_bare (perm : rules.Perm Rule.all) (bare : isList t = false) :
    rules.findSome? (·.readWith s item t) = Rule.all.findSome? (·.readWith s item t) := by
  cases taken : Rule.all.findSome? (·.readWith s item t) with
  | none =>
    rw [List.findSome?_eq_none_iff] at taken ⊢
    exact fun r mem => taken r (perm.subset mem)
  | some v =>
    obtain ⟨r, mem, result⟩ := List.exists_of_findSome?_eq_some taken
    apply findSome?_of_only (perm.mem_iff.2 mem) result
    intro r' _ other
    cases r with
    | list => simp [Rule.readWith, bare] at result
    | scalar rule =>
      obtain ⟨a, read, -⟩ := Option.map_eq_some_iff.1 result
      exact readWith_eq_none_of_scalar bare read other

/-- A round gives the same value in any order that tries lists before numbers. -/
theorem readRound_perm (perm : rules.Perm Rule.all)
    (before : [Rule.list, .scalar .number].Sublist rules) :
    readRound rules s item t = readRound Rule.all s item t := by
  have found : rules.findSome? (·.readWith s item t) =
      Rule.all.findSome? (·.readWith s item t) := by
    cases list : isList t with
    | true =>
      rw [findSome?_of_isList perm before list,
        findSome?_of_isList (List.Perm.refl _) (by decide) list]
    | false => exact findSome?_of_bare perm list
  rw [readRound, readRound, found]

end Orders

/-! ## Kinds -/

/-- What a text means, told by the readers of the single kinds. -/
structure Value.Classifies (s : Separators) (t : Text) (v : Value) : Prop where
  /-- A list exactly if there is a bare comma; its items are read one by one. -/
  list : ∀ items, v = .list items ↔
    isList t = true ∧ items = (split t).map fun p => readValue s (some p)
  /-- A truth value exactly if the text names it. -/
  bool : ∀ b, v = .scalar (.bool b) ↔ readBool t = some b
  /-- A moment exactly if the text is its timestamp. -/
  moment : ∀ m, v = .scalar (.moment m) ↔ (Timestamp.read? t).map .utc = some m
  /-- A number exactly if the text is no list, looks like a number and is read as this one. -/
  number : ∀ n, v = .scalar (.number n) ↔
    isList t = false ∧ looksNumeric t = true ∧ readNumber s t = some n
  /-- The text itself in every other case. -/
  text : ∀ u, v = .scalar (.text u) ↔
    u = unescape t ∧ isList t = false ∧ readBool t = none ∧ Timestamp.read? t = none ∧
      (looksNumeric t = true → readNumber s t = none)

section Kinds

variable {s : Separators} {t : Text}

theorem classifies_of_isList (list : isList t = true) :
    (readValue s (some t)).Classifies s t := by
  obtain ⟨-, noWord, noTime⟩ := marks_of_isList list
  rw [readValue_eq_list list]
  constructor
  · intro items
    rw [Value.list.injEq, and_iff_right list, eq_comm]
  all_goals
    intro a
    simp [list, noWord, noTime]

/-- The one rule that takes a text says what the text means. -/
theorem readScalar_of_read (named : isNull t = false) {rule : ScalarRule} {a : Scalar}
    (h : rule.read s t = some a) : readScalar s t = a := by
  have mem : rule ∈ ScalarRule.all := by cases rule <;> decide
  have found := findSome?_of_only mem h fun _ _ other => ScalarRule.read_eq_none h other
  rw [readScalar, readScalarBy, named, if_neg Bool.false_ne_true, found, Option.getD_some]

theorem readScalar_eq_bool_iff (named : isNull t = false) {b : Bool} :
    readScalar s t = .bool b ↔ readBool t = some b := by
  constructor
  · intro eq
    have origin := readFrom_readScalar s t
    rw [eq] at origin
    cases origin with
    | bool word => exact word
  · intro word
    have taken : ScalarRule.bool.read s t = some (.bool b) := by
      rw [ScalarRule.read, word, Option.map_some]
    exact readScalar_of_read named taken

theorem readScalar_eq_moment_iff (named : isNull t = false) {m : Moment} :
    readScalar s t = .moment m ↔ (Timestamp.read? t).map .utc = some m := by
  constructor
  · intro eq
    have origin := readFrom_readScalar s t
    rw [eq] at origin
    cases origin with
    | moment time => rw [time, Option.map_some]
  · intro time
    obtain ⟨d, read, rfl⟩ := Option.map_eq_some_iff.1 time
    have taken : ScalarRule.timestamp.read s t = some (.moment (.utc d)) := by
      rw [ScalarRule.read, read, Option.map_some]
    exact readScalar_of_read named taken

theorem readScalar_eq_number_iff {n : Number} :
    readScalar s t = .number n ↔ looksNumeric t = true ∧ readNumber s t = some n := by
  constructor
  · intro eq
    have origin := readFrom_readScalar s t
    rw [eq] at origin
    cases origin with
    | number numeric read => exact ⟨numeric, read⟩
  · rintro ⟨numeric, read⟩
    have taken : ScalarRule.number.read s t = some (.number n) := by
      rw [ScalarRule.read, if_pos numeric, read, Option.map_some]
    exact readScalar_of_read (marks_of_looksNumeric numeric).1 taken

/-- A text stands for itself exactly if no rule takes it. -/
theorem readScalar_eq_text_iff (named : isNull t = false) {u : Text} :
    readScalar s t = .text u ↔ u = unescape t ∧ ∀ rule : ScalarRule, rule.read s t = none := by
  constructor
  · intro eq
    have self : u = unescape t := by
      have origin := readFrom_readScalar s t
      rw [eq] at origin
      cases origin
      rfl
    refine ⟨self, fun rule => ?_⟩
    cases read : rule.read s t with
    | none => rfl
    | some a =>
      rw [← readScalar_of_read named read, eq] at read
      exact absurd read ScalarRule.read_ne_text
  · rintro ⟨rfl, untaken⟩
    have none : ScalarRule.all.findSome? (·.read s t) = none :=
      List.findSome?_eq_none_iff.2 fun rule _ => untaken rule
    rw [readScalar, readScalarBy, named, if_neg Bool.false_ne_true, none, Option.getD_none]

/-- No rule takes a text that is no word, no timestamp and no number. -/
theorem untaken_iff :
    (∀ rule : ScalarRule, rule.read s t = none) ↔
      readBool t = none ∧ Timestamp.read? t = none ∧
        (looksNumeric t = true → readNumber s t = none) := by
  have number : ScalarRule.number.read s t = none ↔
      (looksNumeric t = true → readNumber s t = none) := by
    cases looks : looksNumeric t <;> simp [ScalarRule.read, looks]
  constructor
  · intro untaken
    exact ⟨Option.map_eq_none_iff.1 (untaken .bool), Option.map_eq_none_iff.1 (untaken .timestamp),
      number.1 (untaken .number)⟩
  · rintro ⟨noWord, noTime, noNumber⟩ rule
    cases rule with
    | bool => exact Option.map_eq_none_iff.2 noWord
    | timestamp => exact Option.map_eq_none_iff.2 noTime
    | number => exact number.2 noNumber

theorem classifies_of_bare (named : isNull t = false) (bare : isList t = false) :
    (readValue s (some t)).Classifies s t := by
  rw [readValue_of_bare s bare]
  constructor
  · intro items
    simp [bare]
  · intro b
    rw [Value.scalar.injEq, readScalar_eq_bool_iff named]
  · intro m
    rw [Value.scalar.injEq, readScalar_eq_moment_iff named]
  · intro n
    rw [Value.scalar.injEq, readScalar_eq_number_iff, and_iff_right bare]
  · intro u
    rw [Value.scalar.injEq, readScalar_eq_text_iff named, untaken_iff, and_iff_right bare]

end Kinds

/-- **Every text is of one kind, and the order of the rules does not matter** as long as lists are
tried before numbers: a reader that reads the items of its lists by itself, whatever the order of
its rules, reads every text as the value that it means. -/
theorem readValue_classifies (s : Separators) {t : Text} (named : isNull t = false) :
    (readValue s (some t)).Classifies s t ∧
      ∀ rules : List Rule, rules.Perm Rule.all → [Rule.list, .scalar .number].Sublist rules →
        ∀ read : Text → Value, (∀ u, read u = readRound rules s read u) ↔
          read = fun u => readValue s (some u) := by
  constructor
  · cases list : isList t with
    | true => exact classifies_of_isList list
    | false => exact classifies_of_bare named list
  · intro rules perm before read
    simp only [readRound_perm perm before]
    exact eq_readRound_iff

/-- A comma that groups digits still makes a list, when the rule for lists is third of four. -/
theorem readValue_classifies_grouping :
    let t := "1,234".toList
    let rules : List Rule := [.scalar .timestamp, .scalar .bool, .list, .scalar .number]
    isNull t = false ∧ rules.Perm Rule.all ∧ [Rule.list, .scalar .number].Sublist rules ∧
      readNumber {} t = some (.int 1234) ∧
      readValue {} (some t) = .list [.scalar (.number (.int 1)), .scalar (.number (.int 234))] ∧
      readRound rules {} (fun u => readValue {} (some u)) t = readValue {} (some t) := by
  intro t rules
  have named : isNull t = false := by decide
  have perm : rules.Perm Rule.all := by decide
  have before : [Rule.list, .scalar .number].Sublist rules := by decide
  obtain ⟨classes, orders⟩ := readValue_classifies {} named
  refine ⟨named, perm, before, by rfl, ?_, ?_⟩
  · rw [classes.list]
    exact ⟨by decide, rfl⟩
  · exact ((orders rules perm before _).2 rfl t).symm

end Criteria
