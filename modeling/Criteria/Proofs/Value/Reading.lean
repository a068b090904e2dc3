import Criteria.Proofs.Number.Numeral
import Criteria.Proofs.Text.LetterCase
import Criteria.Proofs.Time.Fields
import Criteria.Proofs.Value.Commas
import Criteria.Value.Reading

/-!
# The rules of reading

What each rule needs for a text to be its own: a word has only letters, and a timestamp has a `T`
and a hyphen. A scalar is what one of the rules makes of the text, or the text itself, and a list is
taken by the rule for lists before any of them.
-/

namespace Criteria
set_option autoImplicit false

/-! ## Words -/

/-- The letters of the words that have a meaning. -/
def wordLetters : Text := "nulltruefalse".toList

theorem not_word {c : Char} (caseless : isCaseless c = true) (other : c ∉ wordLetters) {t : Text}
    (mem : c ∈ t) : isNull t = false ∧ readBool t = none := by
  have kept := mem_lowercase caseless mem
  have ne (word : Text) (sub : word ⊆ wordLetters) : lowercase t ≠ word := fun eq =>
    other (sub (eq ▸ kept))
  constructor
  · exact decide_eq_false (ne _ (by decide))
  · rw [readBool, if_neg (ne _ (by decide)), if_neg (ne _ (by decide))]

theorem not_word_of_isDecimalDigit {c : Char} (h : isDecimalDigit c = true) {t : Text}
    (mem : c ∈ t) : isNull t = false ∧ readBool t = none := by
  apply not_word (isCaseless_of_isDecimalDigit h) _ mem
  intro letter
  have letters : (wordLetters.all fun c => !isDecimalDigit c) = true := by decide
  have noDigit := List.all_eq_true.1 letters c letter
  rw [h] at noDigit
  cases noDigit

/-! ## Scalars -/

/-- What a text can mean if it is no list, with the rule that takes it. -/
inductive Scalar.ReadFrom (s : Separators) (t : Text) : Scalar → Prop where
  | null (null : isNull t = true) : ReadFrom s t .null
  | bool {b : Bool} (read : readBool t = some b) : ReadFrom s t (.bool b)
  | moment {d : DateTime} (read : Timestamp.read? t = some d) : ReadFrom s t (.moment (.utc d))
  | number {n : Number} (numeric : looksNumeric t = true) (read : readNumber s t = some n) :
      ReadFrom s t (.number n)
  | text (self : readScalar s t = .text (Commas.unescape t)) :
      ReadFrom s t (.text (Commas.unescape t))

theorem ScalarRule.readFrom {s : Separators} {t : Text} {r : ScalarRule} {a : Scalar}
    (h : r.read s t = some a) : a.ReadFrom s t := by
  cases r with
  | bool =>
    obtain ⟨b, word, rfl⟩ := Option.map_eq_some_iff.1 h
    exact .bool word
  | timestamp =>
    obtain ⟨d, time, rfl⟩ := Option.map_eq_some_iff.1 h
    exact .moment time
  | number =>
    obtain ⟨numeric, read⟩ := Option.ite_none_right_eq_some.1 h
    obtain ⟨n, number, rfl⟩ := Option.map_eq_some_iff.1 read
    exact .number numeric number

/-- **Every scalar is read by one of the rules**, or is the text itself. -/
theorem readFrom_readScalar (s : Separators) (t : Text) : (readScalar s t).ReadFrom s t := by
  cases null : isNull t with
  | true =>
    rw [readScalar, readScalarBy, null, if_pos rfl]
    exact .null null
  | false =>
    have eq : readScalar s t =
        (ScalarRule.all.findSome? (·.read s t)).getD (.text (Commas.unescape t)) := by
      rw [readScalar, readScalarBy, null, if_neg Bool.false_ne_true]
    cases found : ScalarRule.all.findSome? (·.read s t) with
    | none =>
      rw [found, Option.getD_none] at eq
      rw [eq]
      exact .text eq
    | some a =>
      rw [eq, found, Option.getD_some]
      obtain ⟨rule, -, read⟩ := List.exists_of_findSome?_eq_some found
      exact rule.readFrom read

theorem mem_of_read? {t : Text} {d : DateTime} (h : Timestamp.read? t = some d) :
    'T' ∈ t ∧ '-' ∈ t := by
  cases (Timestamp.shows_of_read? h).1
  simp

/-! ## Values -/

/-- A text without bare commas is no list. -/
theorem readValue_of_bare {t : Text} (s : Separators) (bare : Commas.isList t = false) :
    readValue s (some t) = .scalar (readScalar s t) := by
  have rules : Rule.all.findSome? (·.read s t) =
      (ScalarRule.all.findSome? (·.read s t)).map .scalar := by
    rw [Rule.all, List.findSome?_cons, Rule.read, bare, List.findSome?_map, List.map_findSome?]
    rfl
  rw [readValue, readValueBy, rules, readScalar, readScalarBy]
  split
  · rfl
  · cases ScalarRule.all.findSome? (·.read s t) <;> rfl

/-- A text with a bare comma is the list of its items. -/
theorem readValue_of_isList {t : Text} (s : Separators) (list : Commas.isList t = true) :
    readValue s (some t) =
      .list ((Commas.split t).map fun item => .scalar (readScalar s item)) := by
  have comma := Commas.mem_of_hasBare list
  have word := (not_word isCaseless_comma (by decide) comma).1
  rw [readValue, readValueBy, word, Rule.all, List.findSome?_cons, Rule.read, list]
  rfl

end Criteria
