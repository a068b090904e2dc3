import Criteria.Number.Numeral
import Criteria.Proofs.Text.DecimalDigit
import Mathlib.Algebra.Group.Nat.Defs
import Mathlib.Data.List.Induction

/-!
# Numerals in plain digits

A row of digits of any script, with or without a minus sign, is always a numeral: an integer is
refused for its length only, and a fraction never. Every digit that is read is less than ten, so the
number of digits bounds the numeral.
-/

namespace Criteria
set_option autoImplicit false

namespace Numeral

/-! ## Digits in a row -/

theorem digits?_cons {c : Char} {t : Text} (ne : t ≠ []) (plain : t.head? ≠ some '_') :
    digits? (c :: t) = (digitValue? c).bind fun d => (digits? t).map (d :: ·) := by
  cases t with
  | nil => exact absurd rfl ne
  | cons d t =>
    rw [digits?]
    · cases digitValue? c <;> cases digits? (d :: t) <;> rfl
    · exact fun nil => absurd nil (List.cons_ne_nil _ _)
    · rintro rest eq
      cases eq
      exact plain rfl

/-- A row of digits is read digit by digit. -/
theorem digits?_of_isDecimalDigit {t : Text} (ne : t ≠ []) (h : ∀ c ∈ t, isDecimalDigit c = true) :
    digits? t = some (t.map fun c => (digitValue? c).getD 0) := by
  induction t with
  | nil => exact absurd rfl ne
  | cons c t ih =>
    obtain ⟨d, head⟩ := Option.isSome_iff_exists.1 (h c List.mem_cons_self)
    cases t with
    | nil => simp [digits?, head]
    | cons e t =>
      have plain : (e :: t).head? ≠ some '_' := by
        rintro ⟨rfl⟩
        exact absurd (h '_' (by simp)) (by decide)
      rw [digits?_cons (List.cons_ne_nil _ _) plain, head,
        ih (List.cons_ne_nil _ _) fun x mem => h x (List.mem_cons_of_mem _ mem)]
      simp [head]

/-- The number that a row of digits writes, whatever their scripts. -/
def written (t : Text) : Nat := value (t.map fun c => (digitValue? c).getD 0)

theorem written_of_isDigit {t : Text} (h : ∀ c ∈ t, c.isDigit = true) :
    written t = Nat.ofDigitChars 10 t 0 := by
  have digits : (t.map fun c => (digitValue? c).getD 0) = t.map fun c => c.toNat - 48 :=
    List.map_congr_left fun c mem => by rw [digitValue?_of_isDigit (h c mem), Option.getD_some]
  rw [written, digits, value, List.foldl_map]
  rfl

theorem digits?_lt {t : Text} {ds : List Nat} (h : digits? t = some ds) : ∀ d ∈ ds, d < 10 := by
  induction t using digits?.induct generalizing ds with
  | case1 => cases h
  | case2 c =>
    obtain ⟨d, read, rfl⟩ := Option.map_eq_some_iff.1 h
    intro x mem
    rw [List.mem_singleton.1 mem]
    exact digitValue?_lt read
  | case3 c rest ih =>
    simp only [digits?, Option.bind_eq_bind, Option.bind_eq_some_iff, Option.pure_def,
      Option.some.injEq] at h
    obtain ⟨d, read, ds, others, rfl⟩ := h
    exact List.forall_mem_cons.2 ⟨digitValue?_lt read, ih others⟩
  | case4 c rest last underscore ih =>
    rw [digits?.eq_4 c rest last underscore] at h
    simp only [Option.bind_eq_bind, Option.bind_eq_some_iff, Option.pure_def,
      Option.some.injEq] at h
    obtain ⟨d, read, ds, others, rfl⟩ := h
    exact List.forall_mem_cons.2 ⟨digitValue?_lt read, ih others⟩

theorem value_append_singleton (ds : List Nat) (d : Nat) :
    value (ds ++ [d]) = 10 * value ds + d := by
  rw [value, List.foldl_append]
  rfl

theorem value_lt {ds : List Nat} (h : ∀ d ∈ ds, d < 10) : value ds < 10 ^ ds.length := by
  induction ds using List.reverseRecOn with
  | nil => exact Nat.one_pos
  | append_singleton ds d ih =>
    have tail := ih fun x mem => h x (List.mem_append_left _ mem)
    have last := h d (by simp)
    rw [value_append_singleton, List.length_append, List.length_singleton, Nat.pow_succ]
    omega

/-! ## Numerals with a sign -/

/-- A text behind the sign of a number, which only negative numbers have. -/
def signed (negative : Bool) (t : Text) : Text := (if negative then ['-'] else []) ++ t

theorem mem_signed {negative : Bool} {t : Text} {c : Char} (h : c ∈ signed negative t) :
    c = '-' ∨ c ∈ t := by
  rcases List.mem_append.1 h with sign | mem
  · cases negative with
    | false => cases sign
    | true => exact Or.inl (List.mem_singleton.1 sign)
  · exact Or.inr mem

theorem isBlank_of_isPadding {c : Char} (h : isPadding c = true) : isBlank c = true := by
  unfold isPadding at h
  split at h
  · simp only [Bool.or_eq_true, beq_iff_eq, Bool.and_eq_true, decide_eq_true_eq] at h
    rcases h with rfl | ⟨low, high⟩
    · decide
    · have first : 9 ≤ c.toNat := low
      have last : c.toNat ≤ 13 := high
      simp [isBlank, blankRanges, inRanges, CodeRange.holds, first, last]
  · exact h

theorem isPadding_eq_false {c : Char} (h : c = '-' ∨ isDecimalDigit c = true) :
    isPadding c = false := by
  rcases h with rfl | digit
  · decide
  · rw [← Bool.not_eq_true]
    intro padding
    exact absurd (isBlank_of_isPadding padding) (by simp [isBlank_of_isDecimalDigit digit])

theorem dropPadding_cons {c : Char} (h : isPadding c = false) (t : Text) :
    dropPadding (c :: t) = c :: t :=
  List.dropWhile_cons_of_neg (by simp [h])

theorem dropPadding_eq_self {t : Text} (h : ∀ c ∈ t, isPadding c = false) : dropPadding t = t := by
  cases t with
  | nil => rfl
  | cons c t => exact dropPadding_cons (h c List.mem_cons_self) t

theorem trimPadding_eq_self {t : Text} (h : ∀ c ∈ t, isPadding c = false) : trimPadding t = t := by
  have reversed : ∀ c ∈ t.reverse, isPadding c = false := fun c mem => h c (List.mem_reverse.1 mem)
  rw [trimPadding, dropPadding_eq_self h, dropPadding_eq_self reversed, List.reverse_reverse]

theorem isPadding_of_mem_signed {negative : Bool} {t : Text}
    (h : ∀ c ∈ t, isDecimalDigit c = true) : ∀ c ∈ signed negative t, isPadding c = false := by
  intro c mem
  apply isPadding_eq_false
  rcases mem_signed mem with sign | digit
  · exact Or.inl sign
  · exact Or.inr (h c digit)

/-- A text that starts with a digit has no sign. -/
theorem splitSign_cons {c : Char} (digit : isDecimalDigit c = true) (t : Text) :
    splitSign (c :: t) = (false, c :: t) := by
  unfold splitSign
  split
  · next minus =>
    cases minus
    exact absurd digit (by decide)
  · next plus =>
    cases plus
    exact absurd digit (by decide)
  · rfl

theorem splitSign_signed {negative : Bool} {t : Text} (h : ∀ c ∈ t, isDecimalDigit c = true) :
    splitSign (signed negative t) = (negative, t) := by
  cases negative with
  | true => rfl
  | false =>
    cases t with
    | nil => rfl
    | cons c t => exact splitSign_cons (h c List.mem_cons_self) t

/-- A row of digits is read as the integer that it writes, unless it is too long. -/
theorem int?_signed {negative : Bool} {t : Text} (ne : t ≠ [])
    (h : ∀ c ∈ t, isDecimalDigit c = true) :
    int? (signed negative t) = if t.length ≤ maxDigits then
      some (if negative then -(written t : Int) else written t) else none := by
  rw [int?, trimPadding_eq_self (isPadding_of_mem_signed h), splitSign_signed h]
  simp only [digits?_of_isDecimalDigit ne h, Option.bind_eq_bind, Option.bind_some,
    List.length_map]
  rfl

/-- Two rows of digits are read as the decimal fraction that they write. -/
theorem fraction?_signed {negative : Bool} {whole fraction : Text} (whole_ne : whole ≠ [])
    (fraction_ne : fraction ≠ []) (h : ∀ c ∈ whole ++ fraction, isDecimalDigit c = true) :
    fraction? (signed negative whole) fraction =
      some (negative, scaled 10 (written (whole ++ fraction)) (-(fraction.length : Int))) := by
  have whole_digits : ∀ c ∈ whole, isDecimalDigit c = true := fun c mem =>
    h c (List.mem_append_left _ mem)
  have fraction_digits : ∀ c ∈ fraction, isDecimalDigit c = true := fun c mem =>
    h c (List.mem_append_right _ mem)
  rw [fraction?, dropPadding_eq_self (isPadding_of_mem_signed whole_digits),
    splitSign_signed whole_digits]
  simp [whole_ne, fraction_ne, written, digits?_of_isDecimalDigit whole_ne whole_digits,
    digits?_of_isDecimalDigit fraction_ne fraction_digits]

/-- An integer that is read has at most as many digits as are allowed. -/
theorem int?_lt {t : Text} {n : Int} (h : int? t = some n) : n.natAbs < 10 ^ maxDigits := by
  unfold int? at h
  generalize splitSign (trimPadding t) = pair at h
  obtain ⟨negative, body⟩ := pair
  simp only [Option.bind_eq_bind, Option.bind_eq_some_iff] at h
  obtain ⟨ds, read, h⟩ := h
  split at h
  · next length =>
    have lt : value ds < 10 ^ maxDigits :=
      Nat.lt_of_lt_of_le (value_lt (digits?_lt read)) (Nat.pow_le_pow_right (by decide) length)
    cases h
    split
    · rwa [Int.natAbs_neg, Int.natAbs_natCast]
    · rwa [Int.natAbs_natCast]
  · cases h

end Numeral

end Criteria
