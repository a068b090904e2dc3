import Criteria.Proofs.Number.Head

/-!
# The pieces of a number

Pieces that are joined to a text are read from it again, each of them whole, if what stands behind
them does not continue the number. So neither the grouping of the integer part nor the rest of the
text changes the number: the text of the bare pieces is read as the same number.
-/

namespace Criteria
set_option autoImplicit false

open Numeral (signed)

/-- Separators that cannot be taken for one another, nor for digits: grouping is one character at
most, and the first character of the decimal separator tells it from the integer part. -/
structure Separators.Apart (s : Separators) : Prop where
  short : s.grouping.length ≤ 1
  noDigit : ∀ c ∈ s.grouping, isDecimalDigit c = false
  decimal : ∃ d rest, s.decimal = d :: rest ∧ isDecimalDigit d = false ∧ d ∉ s.grouping

namespace NumberHead

/-- The text that the pieces make up. -/
def text (s : Separators) (h : NumberHead) : Text :=
  signed h.negative (h.whole ++ (h.places s ++ h.rest))

/-- The pieces without grouping, and nothing behind them. -/
def bare (s : Separators) (h : NumberHead) : NumberHead :=
  { h with whole := h.ungrouped s, rest := [] }

/-- Pieces of a number with a rest that does not continue it. -/
structure Joins (s : Separators) (h : NumberHead) : Prop where
  /-- The integer part starts with a digit. -/
  first : ∃ c rest, h.whole = c :: rest ∧ isDecimalDigit c = true
  /-- The integer part has only digits and grouping. -/
  whole : ∀ c ∈ h.whole, isDecimalDigit c = true ∨ c ∈ s.grouping
  /-- The fraction has only digits. -/
  fraction : ∀ f, h.fraction = some f → ∀ c ∈ f, isDecimalDigit c = true
  /-- No digit stands behind the number. -/
  rest : ∀ c, h.rest.head? = some c → isDecimalDigit c = false
  /-- Behind an integer there is neither grouping nor the decimal separator. -/
  integer : h.fraction = none →
    (∀ c, h.rest.head? = some c → c ∉ s.grouping) ∧ ¬ s.decimal <+: h.rest

section Reading

variable {s : Separators} {t : Text} {h : NumberHead}

/-- A text has no other head than the one that it is made of. -/
theorem Heads.ofText?_eq (heads : h.Heads s t) : ofText? s t = some h := by
  obtain ⟨c, more, whole, digit⟩ := heads.first
  have others : ∀ d ∈ more, continues s d = true := fun d mem =>
    heads.whole d (by simp [whole, mem])
  obtain ⟨taken, dropped⟩ := span_append others heads.wholeEnd
  rw [heads.text, whole, List.cons_append, ofText?_signed s h.negative _ digit, taken, dropped]
  cases fraction : h.fraction with
  | none =>
    simp only [places, fraction, Option.map_none, Option.getD_none, List.nil_append,
      heads.noFraction fraction, ← whole]
    rw [← fraction]
  | some f =>
    obtain ⟨digits, stop⟩ := heads.fraction f fraction
    obtain ⟨taken, dropped⟩ := span_append digits stop
    simp only [places, fraction, Option.map_some, Option.getD_some, List.append_assoc,
      dropStart?_append, taken, dropped, ← whole]
    rw [← fraction]

/-- Grouping and the rest do not enter into the number. -/
theorem number?_bare (short : s.grouping.length ≤ 1) : (h.bare s).number? s = h.number? s := by
  have ungrouped_bare : (h.bare s).ungrouped s = h.ungrouped s := by
    simp [ungrouped, bare, List.filter_filter]
  rw [number?, number?, numeral_eq short, numeral_eq short, ungrouped_bare]
  rfl

variable (apart : s.Apart)
include apart

/-- The pieces are what is read from the text that they make up. -/
theorem Joins.heads (joins : h.Joins s) : h.Heads s (h.text s) := by
  refine ⟨rfl, joins.first, ?_, ?_, ?_, ?_⟩
  · intro c mem
    rw [continues, Bool.or_eq_true, List.contains_iff_mem]
    exact joins.whole c mem
  · intro c next
    rw [continues_eq_false_iff]
    cases fraction : h.fraction with
    | none =>
      simp only [places, fraction, Option.map_none, Option.getD_none, List.nil_append] at next
      exact ⟨joins.rest c next, (joins.integer fraction).1 c next⟩
    | some f =>
      obtain ⟨d, more, decimal, stop⟩ := apart.decimal
      simp only [places, fraction, decimal, Option.map_some, Option.getD_some, List.cons_append,
        List.head?_cons, Option.some.injEq] at next
      exact next ▸ stop
  · exact fun f fraction => ⟨joins.fraction f fraction, joins.rest⟩
  · exact fun none => dropStart?_eq_none_iff.2 (joins.integer none).2

theorem Joins.bare (joins : h.Joins s) : (h.bare s).Joins s := by
  have heads := joins.heads apart
  refine ⟨?_, ?_, joins.fraction, ?_, ?_⟩
  · obtain ⟨c, rest, eq⟩ := List.exists_cons_of_ne_nil (heads.ungrouped_ne_nil apart.noDigit)
    exact ⟨c, rest, eq, heads.digits_ungrouped c (by simp [eq])⟩
  · exact fun c mem => Or.inl (heads.digits_ungrouped c mem)
  · exact fun c none => by cases none
  · intro _
    obtain ⟨d, more, decimal, -⟩ := apart.decimal
    constructor
    · exact fun c none => by cases none
    · simp [NumberHead.bare, decimal]

end Reading

end NumberHead

/-- **Only sign, digits and fraction count.** Pieces that are joined to a text are read from it
again, and the text without the grouping among the digits and without the rest is read as the same
number, or refused like it. -/
theorem readNumber_bare {s : Separators} (apart : s.Apart) {h : NumberHead} (joins : h.Joins s) :
    NumberHead.ofText? s (h.text s) = some h ∧
      readNumber s (h.text s) = readNumber s ((h.bare s).text s) := by
  have joined := (joins.heads apart).ofText?_eq
  have bare := ((joins.bare apart).heads apart).ofText?_eq
  refine ⟨joined, ?_⟩
  rw [readNumber, readNumber, joined, bare]
  exact (NumberHead.number?_bare apart.short).symm

/-- Grouping that is doubled and stands before the decimal separator, and a rest in which the
decimal separator starts over. -/
theorem readNumber_bare_doubled :
    let s : Separators := { grouping := ['.'], decimal := [';', ';'] }
    let h : NumberHead := ⟨true, "1..234.".toList, some "50".toList, ";.6".toList⟩
    s.Apart ∧ h.Joins s ∧
      readNumber s "-1..234.;;50;.6".toList = readNumber s "-1234;;50".toList := by
  intro s h
  have whole : ("1..234.".toList.all fun c => isDecimalDigit c || c == '.') = true := by
    decide +kernel
  have fraction : "50".toList.all isDecimalDigit = true := by decide +kernel
  have apart : s.Apart :=
    ⟨by decide, List.forall_mem_singleton.2 (by decide), ';', [';'], rfl, by decide, by decide⟩
  have joins : h.Joins s := by
    refine ⟨⟨'1', "..234.".toList, rfl, by decide⟩, ?_, ?_, ?_, ?_⟩
    · intro c mem
      simpa [s] using List.all_eq_true.1 whole c mem
    · rintro f ⟨rfl⟩
      exact List.all_eq_true.1 fraction
    · rintro c ⟨rfl⟩
      decide
    · intro none
      cases none
  exact ⟨apart, joins, (readNumber_bare apart joins).2⟩

end Criteria
