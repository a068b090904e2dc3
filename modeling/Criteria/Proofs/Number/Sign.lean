import Criteria.Proofs.Number.Head

/-!
# Negative numbers

A minus sign before a text negates the number that is read from it and changes nothing else: it is
no digit of an integer, and magnitudes are rounded alike under both signs. Grouping may be of any
length, hold minus signs, and be removed in part only. As long as it has no digit, the first digit
of the integer part stays in its place, so the sign meets a digit and never what grouping leaves.
-/

namespace Criteria
set_option autoImplicit false

open Numeral (signed)

/-! ## Negation -/

namespace Binary64

/-- The number with the opposite sign. -/
def neg : Binary64 → Binary64
  | .finite negative x => .finite (!negative) x
  | .infinite negative => .infinite (!negative)
  | .nan => .nan

theorem toRat?_neg (x : Binary64) : x.neg.toRat? = x.toRat?.map (-·) := by
  cases x with
  | finite negative x => cases negative <;> simp [neg, toRat?]
  | infinite => rfl
  | nan => rfl

/-- Rounding treats both signs alike. -/
theorem ofRat?_not (negative : Bool) (r : Rat) :
    ofRat? (!negative) r = (ofRat? negative r).map neg := by
  rw [ofRat?, ofRat?, Option.map_map]
  rfl

end Binary64

namespace Number

/-- The number of the same type with the opposite sign. -/
def neg : Number → Number
  | .int n => .int (-n)
  | .float x => .float x.neg

/-- The exact value is negated. -/
theorem toRat?_neg (n : Number) : n.neg.toRat? = n.toRat?.map (-·) := by
  cases n with
  | int n => simp [neg, toRat?]
  | float x => exact x.toRat?_neg

end Number

/-! ## Numerals -/

namespace Numeral

/-- A character that is no padding stays, and padding is taken from the end of what follows it. -/
theorem trimPadding_cons {c : Char} (h : isPadding c = false) (t : Text) :
    trimPadding (c :: t) = c :: (dropPadding t.reverse).reverse := by
  have last : dropPadding (t.reverse ++ [c]) = dropPadding t.reverse ++ [c] := by
    rw [dropPadding, List.dropWhile_append]
    split
    · next empty =>
      rw [dropPadding, List.isEmpty_iff.1 empty]
      exact dropPadding_cons h []
    · rfl
  rw [trimPadding, dropPadding_cons h, List.reverse_cons, last, List.reverse_append]
  rfl

section Minus

variable {c : Char} (digit : isDecimalDigit c = true)
include digit

/-- A minus sign negates an integer and does not count as one of its digits. -/
theorem int?_minus (t : Text) : int? ('-' :: c :: t) = (int? (c :: t)).map (-·) := by
  have noPadding := isPadding_eq_false (Or.inr digit)
  have trimmed : trimPadding ('-' :: c :: t) = '-' :: trimPadding (c :: t) := by
    rw [trimPadding_cons (isPadding_eq_false (Or.inl rfl)), trimPadding,
      dropPadding_cons noPadding]
  rw [int?, int?, trimmed, trimPadding_cons noPadding, splitSign_cons digit]
  simp only [splitSign]
  cases digits? (c :: (dropPadding t.reverse).reverse) with
  | none => rfl
  | some ds =>
    by_cases length : ds.length ≤ maxDigits
    · simp [length]
    · simp [length]

/-- A minus sign turns the sign of a fraction over. -/
theorem fraction?_minus (t fraction : Text) :
    fraction? ('-' :: c :: t) fraction =
      (fraction? (c :: t) fraction).map fun number => (!number.1, number.2) := by
  rw [fraction?, fraction?, dropPadding_cons (isPadding_eq_false (Or.inl rfl)),
    dropPadding_cons (isPadding_eq_false (Or.inr digit)), splitSign_cons digit]
  simp only [splitSign]
  cases digits? (c :: t) with
  | none => rfl
  | some units =>
    cases fraction with
    | nil => rfl
    | cons d places => cases digits? (d :: places) <;> rfl

end Minus

end Numeral

/-! ## Heads -/

namespace NumberHead

variable {s : Separators} {t : Text} {h : NumberHead}

/-- A text without a minus sign at its start has a head that is not negative. -/
theorem negative_of_plain (plain : t.head? ≠ some '-') (read : ofText? s t = some h) :
    h.negative = false := by
  obtain ⟨negative, c, rest, rfl, digit⟩ := exists_of_ofText? read
  cases negative with
  | true => exact absurd rfl plain
  | false =>
    rw [ofText?_signed s false rest digit, Option.some.injEq] at read
    rw [← read]

/-- A minus sign before a text is the sign of its head. -/
theorem ofText?_minus (plain : t.head? ≠ some '-') :
    ofText? s ('-' :: t) = (ofText? s t).map ({ · with negative := true }) := by
  cases read : ofText? s t with
  | none =>
    rw [Option.map_none, ofText?_eq_none_iff]
    rintro ⟨negative, c, rest, eq, digit⟩
    cases negative with
    | true =>
      cases eq
      exact ofText?_eq_none_iff.1 read ⟨false, c, rest, rfl, digit⟩
    | false =>
      cases eq
      exact absurd digit (by decide)
  | some h =>
    obtain ⟨negative, c, rest, rfl, digit⟩ := exists_of_ofText? read
    cases negative with
    | true => exact absurd rfl plain
    | false =>
      rw [ofText?_signed s false rest digit, Option.some.injEq] at read
      rw [← read]
      exact ofText?_signed s true rest digit

/-- A minus sign is put before the first digit, so it negates what grouping leaves of the number. -/
theorem Heads.number?_minus (noDigit : ∀ c ∈ s.grouping, isDecimalDigit c = false)
    (heads : h.Heads s t) (positive : h.negative = false) :
    ({ h with negative := true } : NumberHead).number? s = (h.number? s).map Number.neg := by
  obtain ⟨c, rest, whole, digit⟩ := heads.first
  have noGrouping : c ∉ s.grouping := fun mem => by simp [noDigit c mem] at digit
  have plain : h.numeral s = c :: removeAll s.grouping rest := by
    rw [numeral, positive, whole, removeAll_cons noGrouping]
    rfl
  have minus : ({ h with negative := true } : NumberHead).numeral s =
      '-' :: c :: removeAll s.grouping rest := by
    rw [numeral, whole, removeAll_cons noGrouping]
    rfl
  cases proper : h.properFraction? with
  | none =>
    rw [number?_eq_int? proper, number?_eq_int? (h := { h with negative := true }) proper,
      plain, minus, Numeral.int?_minus digit, Option.map_map, Option.map_map]
    rfl
  | some fraction =>
    rw [number?_eq_fraction? proper, number?_eq_fraction? (h := { h with negative := true }) proper,
      plain, minus, Numeral.fraction?_minus digit, Option.bind_map, Option.map_bind]
    congr 1
    funext number
    simp [Binary64.ofRat?_not, Number.neg, Function.comp_def]

end NumberHead

/-- **A minus sign negates the number that is read.** A text without a sign and the same text behind
a minus sign are both refused, or are read as numbers of the same type and of opposite value. -/
theorem readNumber_minus {s : Separators} (noDigit : ∀ c ∈ s.grouping, isDecimalDigit c = false)
    {t : Text} (plain : t.head? ≠ some '-') :
    readNumber s ('-' :: t) = (readNumber s t).map Number.neg := by
  rw [readNumber, readNumber, NumberHead.ofText?_minus plain]
  cases read : NumberHead.ofText? s t with
  | none => rfl
  | some h =>
    have heads := NumberHead.heads_of_ofText? read
    exact heads.number?_minus noDigit (NumberHead.negative_of_plain plain read)

/-- Grouping of two characters, one of them the sign: it is removed once and left once in part. -/
theorem readNumber_minus_partly :
    let s : Separators := { grouping := ['_', '-'] }
    (∀ c ∈ s.grouping, isDecimalDigit c = false) ∧ "1_-2_3x".toList.head? ≠ some '-' ∧
      readNumber s "-1_-2_3x".toList = some (.int (-123)) := by
  intro s
  have noDigit : ∀ c ∈ s.grouping, isDecimalDigit c = false :=
    List.forall_mem_cons.2 ⟨by decide, List.forall_mem_singleton.2 (by decide)⟩
  have plain : "1_-2_3x".toList.head? ≠ some '-' := by decide
  have read : readNumber s "1_-2_3x".toList = some (.int 123) := by rfl
  refine ⟨noDigit, plain, ?_⟩
  exact (readNumber_minus noDigit plain).trans (by rw [read]; rfl)

end Criteria
