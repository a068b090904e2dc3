import Criteria.Proofs.Number.Head
import Criteria.Proofs.Number.Overflow

/-!
# Numbers that are refused

With grouping of one character at most, the text between the pieces of a number is always a numeral.
So a text that starts with a number is refused for its size only: as an integer of more digits than
are converted, or as a fraction that is rounded to infinity.
-/

namespace Criteria
set_option autoImplicit false

open Numeral (signed written)

namespace NumberHead

/-- The number is an integer, by a fraction without other digits than the ASCII zero, and it has
more digits than are converted. -/
def TooLong (s : Separators) (h : NumberHead) : Prop :=
  (∀ f, h.fraction = some f → ∀ c ∈ f, c = '0') ∧ 4300 < (h.ungrouped s).length

/-- The number has a fraction with another digit than the ASCII zero, and the decimal number of all
its digits is rounded to infinity. -/
def Overflows (s : Separators) (h : NumberHead) : Prop :=
  ∃ f, h.fraction = some f ∧ (∃ c ∈ f, c ≠ '0') ∧
    Magnitude.overflow ≤ (written (h.ungrouped s ++ f) : ℚ) / 10 ^ f.length

/-- The decimal number that the digits of the integer part and of the fraction write. -/
def decimal (s : Separators) (h : NumberHead) (f : Text) : ℚ :=
  (written (h.ungrouped s ++ f) : ℚ) / 10 ^ f.length

section Refusals

variable {s : Separators} {t : Text} {h : NumberHead}

theorem decimal_nonneg (f : Text) : 0 ≤ h.decimal s f := by
  unfold decimal
  positivity

variable (short : s.grouping.length ≤ 1) (noDigit : ∀ c ∈ s.grouping, isDecimalDigit c = false)
include short noDigit

/-- An integer is refused exactly if it is too long. -/
theorem Heads.number?_of_integer (heads : h.Heads s t) (integer : h.properFraction? = none) :
    h.number? s = none ↔ 4300 < (h.ungrouped s).length := by
  rw [NumberHead.number?_eq_int? integer, numeral_eq short,
    Numeral.int?_signed (heads.ungrouped_ne_nil noDigit) heads.digits_ungrouped,
    Option.map_eq_none_iff, ite_eq_right_iff]
  simp [Numeral.maxDigits]

/-- A fraction is rounded from the decimal number that all its digits write. -/
theorem Heads.number?_of_fraction (heads : h.Heads s t) {f : Text}
    (proper : h.properFraction? = some f) :
    h.number? s =
      (Magnitude.ofRat? (h.decimal s f)).map fun x => .float (.finite h.negative x) := by
  obtain ⟨fraction, c, mem, -⟩ := properFraction?_eq_some_iff.1 proper
  have digits : ∀ c ∈ h.ungrouped s ++ f, isDecimalDigit c = true := by
    intro c mem
    rcases List.mem_append.1 mem with whole | place
    · exact heads.digits_ungrouped c whole
    · exact (heads.fraction f fraction).1 c place
  have value : scaled 10 (written (h.ungrouped s ++ f)) (-(f.length : Int)) = h.decimal s f := by
    rw [scaled_eq_zpow (by decide), zpow_neg, zpow_natCast, decimal, div_eq_mul_inv]
    rfl
  rw [NumberHead.number?_eq_fraction? proper, numeral_eq short,
    Numeral.fraction?_signed (heads.ungrouped_ne_nil noDigit) (List.ne_nil_of_mem mem) digits,
    value, Option.bind_some, Binary64.ofRat?, Option.map_map]
  rfl

/-- A fraction and an integer cannot be refused for one another's reason. -/
theorem Heads.number?_eq_none_iff (heads : h.Heads s t) :
    h.number? s = none ↔ h.TooLong s ∨ h.Overflows s := by
  cases proper : h.properFraction? with
  | none =>
    have zeros := properFraction?_eq_none_iff.1 proper
    have noOverflow : ¬ h.Overflows s := by
      rintro ⟨f, fraction, ⟨c, mem, other⟩, -⟩
      exact other (zeros f fraction c mem)
    rw [heads.number?_of_integer short noDigit proper, or_iff_left noOverflow, TooLong,
      and_iff_right zeros]
  | some f =>
    obtain ⟨fraction, c, mem, other⟩ := properFraction?_eq_some_iff.1 proper
    have noLength : ¬ h.TooLong s := fun ⟨zeros, _⟩ => other (zeros f fraction c mem)
    rw [heads.number?_of_fraction short noDigit proper, Option.map_eq_none_iff,
      Magnitude.ofRat?_eq_none_iff (decimal_nonneg f), or_iff_right noLength]
    constructor
    · intro large
      exact ⟨f, fraction, ⟨c, mem, other⟩, large⟩
    · rintro ⟨f', fraction', -, large⟩
      rw [fraction, Option.some.injEq] at fraction'
      rwa [fraction']

end Refusals

end NumberHead

/-- **A number is refused for its size only.** A text is read as no number exactly if it does not
start with one, or starts with an integer of more than 4300 digits, or with a fraction that is
rounded to infinity. -/
theorem readNumber_eq_none_iff (s : Separators) (short : s.grouping.length ≤ 1)
    (noDigit : ∀ c ∈ s.grouping, isDecimalDigit c = false) (t : Text) :
    readNumber s t = none ↔
      ¬ StartsNumber t ∨
        ∃ h, NumberHead.ofText? s t = some h ∧ (h.TooLong s ∨ h.Overflows s) := by
  rw [← ofText?_eq_none_iff (s := s)]
  cases read : NumberHead.ofText? s t with
  | none => simp [readNumber, read]
  | some h =>
    have heads := NumberHead.heads_of_ofText? read
    simp [readNumber, read, heads.number?_eq_none_iff short noDigit]

/-- A fraction of 309 digits before a decimal comma: grouped by points, it is beyond the largest
magnitude. -/
theorem readNumber_eq_none_iff_nines :
    let s : Separators := { grouping := ['.'], decimal := [','] }
    let t := '-' :: List.replicate 309 '9' ++ ".,5x".toList
    s.grouping.length ≤ 1 ∧ (∀ c ∈ s.grouping, isDecimalDigit c = false) ∧
      readNumber s t = none := by
  intro s t
  have short : s.grouping.length ≤ 1 := by decide
  have noDigit : ∀ c ∈ s.grouping, isDecimalDigit c = false :=
    List.forall_mem_singleton.2 (by decide +kernel)
  let h : NumberHead := ⟨true, List.replicate 309 '9' ++ ['.'], some ['5'], ['x']⟩
  have read : NumberHead.ofText? s t = some h := by decide +kernel
  have large : (2 ^ 54 - 1) * 2 ^ 970 * 10 ≤ written (h.ungrouped s ++ ['5']) := by
    decide +kernel
  refine ⟨short, noDigit, (readNumber_eq_none_iff s short noDigit t).2 ?_⟩
  refine Or.inr ⟨h, read, Or.inr ⟨['5'], rfl, ⟨'5', by decide, by decide⟩, ?_⟩⟩
  have power : ((2 ^ 970 : Nat) : ℚ) = 2 ^ 970 := Nat.cast_pow 2 970
  rw [Magnitude.overflow, List.length_singleton, pow_one, le_div_iff₀ (by norm_num), ← power]
  generalize 2 ^ 970 = p at large ⊢
  generalize written (h.ungrouped s ++ ['5']) = n at large ⊢
  norm_num at large ⊢
  exact_mod_cast large

end Criteria
