import Criteria.Proofs.Number.Reading

/-!
# The head of a number

The pieces that are read from the start of a text make up the text together with what is left over.
Each piece is as long as it can be: nothing behind the integer part continues it, and no digit
stands behind the fraction. So a text without commas that looks like a number has a fraction only
behind a point. Grouping of one character at most leaves only digits in the integer part, and the
pieces are rows of digits.
-/

namespace Criteria
set_option autoImplicit false

open Numeral (signed written)

/-! ## Grouping -/

theorem removeFrom_singleton (g : Char) (t : Text) : removeFrom [g] 0 t = t.filter (· != g) := by
  induction t with
  | nil => rfl
  | cons c t ih =>
    by_cases h : c = g
    · simp [removeFrom, h, ih]
    · have other : ¬ g = c := fun eq => h eq.symm
      simp [removeFrom, h, other, ih]

/-- Grouping of one character at most is taken out wherever it stands. -/
theorem removeAll_eq_filter {word : Text} (short : word.length ≤ 1) (t : Text) :
    removeAll word t = t.filter (!word.contains ·) := by
  match word with
  | [] => exact (List.filter_eq_self.2 fun _ _ => rfl).symm
  | [g] =>
    simp only [removeAll, List.isEmpty_cons, Bool.false_eq_true, if_false, removeFrom_singleton]
    exact List.filter_congr fun c _ => by simp [bne, beq_eq_decide]
  | _ :: _ :: _ => exact absurd short (by simp)

namespace NumberHead

/-! ## Pieces -/

/-- The fraction as it stands in the text, behind the decimal separator. -/
def places (s : Separators) (h : NumberHead) : Text := (h.fraction.map (s.decimal ++ ·)).getD []

/-- What the head of a text tells about the text. -/
structure Heads (s : Separators) (t : Text) (h : NumberHead) : Prop where
  /-- The pieces and what is left over make up the text. -/
  text : t = signed h.negative (h.whole ++ (h.places s ++ h.rest))
  /-- The integer part starts with a digit. -/
  first : ∃ c rest, h.whole = c :: rest ∧ isDecimalDigit c = true
  /-- The integer part has only digits and grouping. -/
  whole : ∀ c ∈ h.whole, continues s c = true
  /-- Nothing behind the integer part continues it. -/
  wholeEnd : ∀ c, (h.places s ++ h.rest).head? = some c → continues s c = false
  /-- The fraction has only digits, and no digit stands behind it. -/
  fraction : ∀ f, h.fraction = some f →
    (∀ c ∈ f, isDecimalDigit c = true) ∧ ∀ c, h.rest.head? = some c → isDecimalDigit c = false
  /-- Without a fraction there is no decimal separator behind the integer part. -/
  noFraction : h.fraction = none → dropStart? s.decimal h.rest = none

theorem head?_dropWhile {p : Char → Bool} {t : Text} {c : Char}
    (h : (t.dropWhile p).head? = some c) : p c = false := by
  have stop := List.head?_dropWhile_not p t
  rwa [h] at stop

theorem heads_of_ofText? {s : Separators} {t : Text} {h : NumberHead} (read : ofText? s t = some h) :
    h.Heads s t := by
  obtain ⟨negative, c, rest, rfl, digit⟩ := exists_of_ofText? read
  rw [ofText?_signed s negative rest digit, Option.some.injEq] at read
  subst read
  have joined := List.takeWhile_append_dropWhile (p := continues s) (l := rest)
  have continued : ∀ d ∈ c :: rest.takeWhile (continues s), continues s d = true := by
    intro d mem
    rcases List.mem_cons.1 mem with rfl | mem
    · rw [continues, digit, Bool.true_or]
    · exact List.mem_takeWhile_imp mem
  cases found : dropStart? s.decimal (rest.dropWhile (continues s)) with
  | none =>
    refine ⟨?_, ⟨c, _, rfl, digit⟩, continued, ?_, ?_, ?_⟩
    · simp [places, joined]
    · intro d next
      exact head?_dropWhile next
    · intro f none
      cases none
    · intro _
      exact found
  | some tail =>
    have after := dropStart?_eq_some found
    have split : s.decimal ++ tail.takeWhile isDecimalDigit ++ tail.dropWhile isDecimalDigit =
        rest.dropWhile (continues s) := by
      rw [List.append_assoc, List.takeWhile_append_dropWhile, ← after]
    refine ⟨?_, ⟨c, _, rfl, digit⟩, continued, ?_, ?_, ?_⟩
    · simp [places, split, joined]
    · intro d next
      simp only [places, Option.map_some, Option.getD_some, split] at next
      exact head?_dropWhile next
    · rintro f ⟨rfl⟩
      exact ⟨fun d mem => List.mem_takeWhile_imp mem, fun d next => head?_dropWhile next⟩
    · intro none
      cases none

section Fraction

variable {s : Separators} {t : Text} {h : NumberHead}

theorem properFraction?_eq_some_iff {f : Text} :
    h.properFraction? = some f ↔ h.fraction = some f ∧ ∃ c ∈ f, c ≠ '0' := by
  simp [properFraction?, Option.filter_eq_some_iff]

theorem properFraction?_eq_none_iff :
    h.properFraction? = none ↔ ∀ f, h.fraction = some f → ∀ c ∈ f, c = '0' := by
  simp [properFraction?, Option.filter_eq_none_iff]

theorem number?_eq_int? (integer : h.properFraction? = none) :
    h.number? s = (Numeral.int? (h.numeral s)).map .int := by
  rw [number?, integer]

theorem number?_eq_fraction? {f : Text} (proper : h.properFraction? = some f) :
    h.number? s = (Numeral.fraction? (h.numeral s) f).bind fun number =>
      (Binary64.ofRat? number.1 number.2).map .float := by
  simp only [number?, proper, Option.map_eq_bind]
  rfl

/-- A text without commas that looks like a number has a fraction only if the point is the decimal
separator and groups nothing, provided that separator is one character at most. -/
theorem Heads.decimal_eq (heads : h.Heads s t) (short : s.decimal.length ≤ 1)
    (numeric : looksNumeric t = true) (comma : ',' ∉ t) {f : Text}
    (proper : h.properFraction? = some f) : s.decimal = ['.'] ∧ '.' ∉ s.grouping := by
  obtain ⟨fraction, c, place, -⟩ := properFraction?_eq_some_iff.1 proper
  obtain ⟨first, more, whole, digit⟩ := heads.first
  have text := heads.text
  have stop := heads.wholeEnd
  simp only [places, fraction, Option.map_some, Option.getD_some] at text stop
  rw [whole, List.cons_append] at text
  match decimal : s.decimal with
  | [] =>
    obtain ⟨d, others, rfl⟩ := List.exists_cons_of_ne_nil (List.ne_nil_of_mem place)
    have last := stop d (by simp [decimal])
    rw [continues, (heads.fraction _ fraction).1 d List.mem_cons_self, Bool.true_or] at last
    cases last
  | [d] =>
    have last := stop d (by simp [decimal])
    rw [continues_eq_false_iff] at last
    have mem : d ∈ more ++ (s.decimal ++ f ++ h.rest) := by simp [decimal]
    rw [text] at numeric comma
    rcases mem_of_looksNumeric numeric digit mem with rfl | rfl | isDigit
    · exact absurd (List.mem_append_right _ (List.mem_cons_of_mem _ mem)) comma
    · exact ⟨rfl, last.2⟩
    · rw [last.1] at isDigit
      cases isDigit
  | _ :: _ :: _ =>
    rw [decimal] at short
    exact absurd short (by simp)

end Fraction

/-- The integer part without its grouping. -/
def ungrouped (s : Separators) (h : NumberHead) : Text := h.whole.filter (!s.grouping.contains ·)

section Grouping

variable {s : Separators} {t : Text} {h : NumberHead}

theorem numeral_eq (short : s.grouping.length ≤ 1) :
    h.numeral s = signed h.negative (h.ungrouped s) := by
  rw [numeral, removeAll_eq_filter short, signed, ungrouped]

/-- What is not grouping in the integer part is a digit. -/
theorem Heads.digits_ungrouped (heads : h.Heads s t) :
    ∀ c ∈ h.ungrouped s, isDecimalDigit c = true := by
  intro c mem
  obtain ⟨whole, noGrouping⟩ := List.mem_filter.1 mem
  have continued := heads.whole c whole
  rw [continues, Bool.or_eq_true] at continued
  rcases continued with digit | grouping
  · exact digit
  · rw [grouping] at noGrouping
    cases noGrouping

/-- The first digit is not grouping. -/
theorem Heads.ungrouped_ne_nil (heads : h.Heads s t)
    (noDigit : ∀ c ∈ s.grouping, isDecimalDigit c = false) : h.ungrouped s ≠ [] := by
  obtain ⟨c, rest, whole, digit⟩ := heads.first
  have noGrouping : c ∉ s.grouping := by
    intro mem
    rw [noDigit c mem] at digit
    cases digit
  simp [ungrouped, whole, noGrouping]

end Grouping

end NumberHead

/-- Whether the text starts with a digit, or with a minus sign and a digit. -/
def StartsNumber (t : Text) : Prop :=
  ∃ negative c rest, t = signed negative (c :: rest) ∧ isDecimalDigit c = true

/-- Only a text that starts with a number has a head. -/
theorem ofText?_eq_none_iff {s : Separators} {t : Text} :
    NumberHead.ofText? s t = none ↔ ¬ StartsNumber t := by
  constructor
  · rintro none ⟨negative, c, rest, rfl, digit⟩
    rw [NumberHead.ofText?_signed s negative rest digit] at none
    cases none
  · intro noStart
    cases read : NumberHead.ofText? s t with
    | none => rfl
    | some h => exact absurd (NumberHead.exists_of_ofText? read) noStart

end Criteria
