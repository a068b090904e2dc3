import Criteria.Proofs.Value.Reading

/-!
# The depth of lists

The items of a list are read in the same way as the list itself. A round of reading leaves open how
the items are read, so that nothing bounds the depth of lists in it. But an item has no bare comma:
the rule for lists never takes one, the second round is the last, and there is just one reader that
reads the items of its lists by itself.
-/

namespace Criteria
set_option autoImplicit false

open Commas (isList split)

/-- What the rule makes of a text if `item` reads the items of lists. -/
def Rule.readWith (s : Separators) (item : Text → Value) (t : Text) : Rule → Option Value
  | .list => if isList t then some (.list ((split t).map item)) else none
  | .scalar rule => (rule.read s t).map .scalar

/-- One round of reading: the rules are tried in the given order, and `item` reads the items of a
list. -/
def readRound (rules : List Rule) (s : Separators) (item : Text → Value) (t : Text) : Value :=
  if isNull t then .scalar .null
  else (rules.findSome? (·.readWith s item t)).getD (.ofText (Commas.unescape t))

section Rounds

variable {rules : List Rule} {s : Separators} {item item' : Text → Value} {t : Text}

/-- What reads the items does not matter to a text without bare commas. -/
theorem readRound_of_bare (bare : isList t = false) (item item' : Text → Value) :
    readRound rules s item t = readRound rules s item' t := by
  have rule (r : Rule) : r.readWith s item t = r.readWith s item' t := by
    cases r with
    | list => simp [Rule.readWith, bare]
    | scalar r => rfl
  simp only [readRound, rule]

theorem readRound_congr (same : ∀ p ∈ split t, item p = item' p) :
    readRound rules s item t = readRound rules s item' t := by
  have rule (r : Rule) : r.readWith s item t = r.readWith s item' t := by
    cases r with
    | list => simp only [Rule.readWith, List.map_congr_left same]
    | scalar r => rfl
  simp only [readRound, rule]

/-- Items can be read as the scalars that they mean. -/
theorem readRound_readScalar :
    readRound Rule.all s (fun p => .scalar (readScalar s p)) t = readValue s (some t) := rfl

theorem readValue_of_mem_split {p : Text} (mem : p ∈ split t) :
    readValue s (some p) = .scalar (readScalar s p) :=
  readValue_of_bare s (Commas.isList_of_mem_split mem)

/-- A text with a bare comma is the list of what its items mean as texts of their own. -/
theorem readValue_eq_list (list : isList t = true) :
    readValue s (some t) = .list ((split t).map fun p => readValue s (some p)) := by
  rw [readValue_of_isList s list]
  congr 1
  exact List.map_congr_left fun p mem => (readValue_of_mem_split mem).symm

/-- A value is what a round makes of the text if the items are read as values. -/
theorem readRound_readValue :
    readRound Rule.all s (fun p => readValue s (some p)) t = readValue s (some t) := by
  rw [← readRound_readScalar (t := t)]
  exact readRound_congr fun p mem => readValue_of_mem_split mem

/-- Without bare commas one round is enough. -/
theorem readRound_eq_of_bare (bare : isList t = false) (item : Text → Value) :
    readRound Rule.all s item t = readValue s (some t) := by
  rw [← readRound_readValue (t := t)]
  exact readRound_of_bare bare _ _

/-- Two rounds are enough for every text. -/
theorem readRound_readRound (item : Text → Value) :
    readRound Rule.all s (readRound Rule.all s item) t = readValue s (some t) := by
  rw [← readRound_readValue (t := t)]
  exact readRound_congr fun p mem => readRound_eq_of_bare (Commas.isList_of_mem_split mem) item

/-- There is just one way to read the items of a list as the list itself is read. -/
theorem eq_readRound_iff {read : Text → Value} :
    (∀ u, read u = readRound Rule.all s read u) ↔ read = fun u => readValue s (some u) := by
  constructor
  · intro rounds
    funext u
    have twice : readRound Rule.all s read u =
        readRound Rule.all s (readRound Rule.all s read) u :=
      readRound_congr fun p _ => rounds p
    rw [rounds u, twice, readRound_readRound]
  · rintro rfl u
    exact readRound_readValue.symm

end Rounds

/-- **Lists are flat**: the items of a list mean what they mean as texts of their own. None of them
has a bare comma, so each means a scalar, and two rounds of reading are enough, however a third one
would read. A further comma behind the text adds no item, unless a backslash stands before it. -/
theorem readValue_items (s : Separators) {t : Text} (list : isList t = true) :
    readValue s (some t) = .list ((split t).map fun p => readValue s (some p)) ∧
      (∀ p ∈ split t, isList p = false ∧ ∃ a, readValue s (some p) = .scalar a) ∧
      (∀ item, readRound Rule.all s (readRound Rule.all s item) t = readValue s (some t)) ∧
      (t.getLast? ≠ some '\\' → readValue s (some (t ++ [','])) = readValue s (some t)) := by
  refine ⟨readValue_eq_list list, ?_, fun item => readRound_readRound item, ?_⟩
  · intro p mem
    exact ⟨Commas.isList_of_mem_split mem, readScalar s p, readValue_of_mem_split mem⟩
  · intro closed
    have longer : isList (t ++ [',']) = true := by
      rw [isList, Commas.hasBare_append, show Commas.hasBare false t = true from list,
        Bool.true_or]
    rw [readValue_of_isList s longer, readValue_of_isList s list, Commas.split_append_comma closed]

/-- Items of several kinds: an escaped comma inside, and an empty item. -/
theorem readValue_items_escaped :
    let t := "a\\,b,,Null,-7".toList
    isList t = true ∧ t.getLast? ≠ some '\\' ∧
      readValue {} (some t) = .list [.ofString "a,b", .ofString "", .scalar .null,
        .scalar (.number (.int (-7)))] ∧
      readValue {} (some (t ++ [','])) = readValue {} (some t) := by
  intro t
  have list : isList t = true := by decide
  have closed : t.getLast? ≠ some '\\' := by decide
  obtain ⟨items, -, -, longer⟩ := readValue_items {} list
  refine ⟨list, closed, ?_, longer closed⟩
  rw [items]
  rfl

end Criteria
