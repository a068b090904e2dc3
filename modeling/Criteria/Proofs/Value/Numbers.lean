import Criteria.Proofs.Number.Head
import Criteria.Proofs.Value.Rereading

/-!
# Texts that mean numbers

Under the usual separators a text that looks like a number throughout need not be one throughout:
the number ends at the second point, and what is left over is dropped. So dotted texts such as
versions and addresses mean the number of their first two parts. The text that a number is written
as is one throughout: a plain decimal, which is no list under any separators and means the number.
-/

namespace Criteria
set_option autoImplicit false

open Numeral (signed)

namespace NumberHead

/-- The characters that may stand behind the integer part of a text without commas that looks like a
number. -/
def isTail (c : Char) : Bool := c == '.' || c.isDigit

section Usual

variable {t : Text} {h : NumberHead}

theorem continues_usual {c : Char} : continues {} c = (isDecimalDigit c || c == ',') := by
  simp [continues, beq_eq_decide]

/-- Without commas the integer part is a row of digits. -/
theorem Heads.digits_whole (heads : h.Heads {} t) (plain : ',' ∉ t) :
    ∀ c ∈ h.whole, isDecimalDigit c = true := by
  intro c mem
  have continued := heads.whole c mem
  rw [continues_usual, Bool.or_eq_true, beq_iff_eq] at continued
  rcases continued with digit | rfl
  · exact digit
  · exact absurd (by rw [heads.text, signed]; simp [mem]) plain

/-- A text without commas looks like a number if its tail does. -/
theorem Heads.looksNumeric_iff (heads : h.Heads {} t) (plain : ',' ∉ t) :
    looksNumeric t = true ↔ ∀ c ∈ h.places {} ++ h.rest, isTail c = true := by
  obtain ⟨c, more, whole, digit⟩ := heads.first
  have digits := heads.digits_whole plain
  have absent : ',' ∉ h.places {} ++ h.rest := by
    intro mem
    apply plain
    rw [heads.text, signed]
    exact List.mem_append_right _ (List.mem_append_right _ mem)
  have stop := heads.wholeEnd
  have text := heads.text
  generalize h.places {} ++ h.rest = tail at absent stop text ⊢
  have ends : tail.dropWhile isDecimalDigit = tail := by
    cases tail with
    | nil => rfl
    | cons d tail =>
      have last := stop d rfl
      rw [continues_usual, Bool.or_eq_false_iff] at last
      rw [List.dropWhile_cons_of_neg (by simp [last.1])]
  rw [whole] at digits
  rw [text, whole, List.cons_append, looksNumeric_signed _ _ digit,
    List.dropWhile_append_of_pos fun d mem => digits d (List.mem_cons_of_mem _ mem), ends,
    List.all_eq_true]
  refine forall₂_congr fun d mem => ?_
  have noComma : d ≠ ',' := by
    rintro rfl
    exact absent mem
  simp [isTail, noComma, isSome_asciiDigit?]

/-- A text without commas that means the number at its start: it may go on behind the number, but
only from a second point on. -/
structure Dotted (t : Text) (h : NumberHead) : Prop where
  /-- The pieces and what is left over make up the text. -/
  text : t = signed h.negative (h.whole ++ (h.places {} ++ h.rest))
  /-- There is no comma. -/
  plain : ',' ∉ t
  /-- The fraction has ASCII digits only. -/
  fraction : ∀ f, h.fraction = some f → ∀ c ∈ f, c.isDigit = true
  /-- What is left over stands behind a fraction, starts with a point, and has only points and ASCII
  digits. -/
  rest : h.rest = [] ∨ h.fraction.isSome = true ∧ h.rest.head? = some '.' ∧
    ∀ c ∈ h.rest, c = '.' ∨ c.isDigit = true
  /-- Nothing is left over exactly if there is at most one point. -/
  points : h.rest = [] ↔ t.count '.' ≤ 1

theorem isTail_iff {c : Char} : isTail c = true ↔ c = '.' ∨ c.isDigit = true := by simp [isTail]

/-- What is left over of a tail of points and digits starts at a second point. -/
theorem Heads.rest_eq (heads : h.Heads {} t)
    (tail : ∀ c ∈ h.places {} ++ h.rest, isTail c = true) :
    h.rest = [] ∨ h.fraction.isSome = true ∧ h.rest.head? = some '.' := by
  cases rest : h.rest with
  | nil => exact Or.inl rfl
  | cons c more =>
    have mark := isTail_iff.1 (tail c (by simp [rest]))
    cases found : h.fraction with
    | none =>
      have separator := heads.noFraction found
      have stop := heads.wholeEnd c (by simp [places, found, rest])
      rw [continues_usual, Bool.or_eq_false_iff] at stop
      rcases mark with rfl | digit
      · simp [rest, dropStart?] at separator
      · rw [isDecimalDigit_of_isDigit digit] at stop
        cases stop.1
    | some f =>
      have stop := (heads.fraction f found).2 c (by rw [rest]; rfl)
      rcases mark with rfl | digit
      · exact Or.inr ⟨rfl, rfl⟩
      · rw [isDecimalDigit_of_isDigit digit] at stop
        cases stop

theorem count_point_eq_zero {u : Text} (digits : ∀ c ∈ u, isDecimalDigit c = true) :
    u.count '.' = 0 := by
  rw [List.count_eq_zero]
  intro mem
  exact absurd (digits _ mem) (by decide)

/-- The points of a text stand before its fraction and in what is left over. -/
theorem Heads.count_point (heads : h.Heads {} t) (plain : ',' ∉ t) :
    t.count '.' = (if h.fraction.isSome then 1 else 0) + h.rest.count '.' := by
  have whole := count_point_eq_zero (heads.digits_whole plain)
  have sign : (signed h.negative []).count '.' = 0 := by cases h.negative <;> rfl
  have text : t = signed h.negative [] ++ (h.whole ++ (h.places {} ++ h.rest)) := by
    rw [signed, List.append_nil]
    exact heads.text
  rw [text, List.count_append, List.count_append, List.count_append, sign, whole]
  cases found : h.fraction with
  | none => simp [places, found]
  | some f => simp [places, found, count_point_eq_zero (heads.fraction f found).1]

theorem Heads.dotted_iff (heads : h.Heads {} t) :
    h.Dotted t ↔ ',' ∉ t ∧ ∀ c ∈ h.places {} ++ h.rest, isTail c = true := by
  constructor
  · intro dotted
    refine ⟨dotted.plain, fun c mem => isTail_iff.2 ?_⟩
    rcases List.mem_append.1 mem with place | left
    · cases found : h.fraction with
      | none => simp [places, found] at place
      | some f =>
        simp only [places, found, Option.map_some, Option.getD_some, List.singleton_append,
          List.mem_cons] at place
        exact place.imp_right (dotted.fraction f found c)
    · rcases dotted.rest with nil | ⟨-, -, marks⟩
      · simp [nil] at left
      · exact marks c left
  · rintro ⟨plain, tail⟩
    have rest := heads.rest_eq tail
    constructor
    · exact heads.text
    · exact plain
    · intro f found c mem
      have place : c ∈ h.places {} := by simp [places, found, mem]
      rcases isTail_iff.1 (tail c (List.mem_append_left _ place)) with rfl | digit
      · exact absurd ((heads.fraction f found).1 _ mem) (by decide)
      · exact digit
    · refine rest.imp_right (And.imp_right fun point => ⟨point, fun c mem => ?_⟩)
      exact isTail_iff.1 (tail c (List.mem_append_right _ mem))
    · rw [heads.count_point plain]
      rcases rest with nil | ⟨fraction, point⟩
      · simp only [nil, true_iff, List.count_nil]
        split <;> omega
      · obtain ⟨more, eq⟩ := List.head?_eq_some_iff.1 point
        simp [fraction, eq]

end Usual

end NumberHead

/-- **A number is read up to the second point of the text.** A text means a number exactly if the
number at its start is this one, nothing in it is a comma, and what is left over, if anything,
starts with a second point and has only points and ASCII digits. -/
theorem readValue_number_iff (t : Text) (n : Number) :
    readValue {} (some t) = .scalar (.number n) ↔
      ∃ h, NumberHead.ofText? {} t = some h ∧ h.number? {} = some n ∧ h.Dotted t := by
  constructor
  · intro value
    cases list : Commas.isList t with
    | true =>
      rw [readValue_of_isList {} list] at value
      cases value
    | false =>
      rw [readValue_of_bare {} list, Value.scalar.injEq, readScalar_eq_number_iff] at value
      obtain ⟨numeric, read⟩ := value
      obtain ⟨h, head, number⟩ := Option.bind_eq_some_iff.1 read
      have heads := NumberHead.heads_of_ofText? head
      have plain : ',' ∉ t := by
        intro comma
        rw [Commas.isList_of_mem comma (not_mem_of_looksNumeric numeric)] at list
        cases list
      exact ⟨h, head, number,
        heads.dotted_iff.2 ⟨plain, (heads.looksNumeric_iff plain).1 numeric⟩⟩
  · rintro ⟨h, head, number, dotted⟩
    have heads := NumberHead.heads_of_ofText? head
    obtain ⟨plain, tail⟩ := heads.dotted_iff.1 dotted
    have numeric := (heads.looksNumeric_iff plain).2 tail
    have read : readNumber {} t = some n := Option.bind_eq_some_iff.2 ⟨h, head, number⟩
    rw [readValue_of_bare {} (Commas.isList_eq_false plain),
      readScalar_eq_number_iff.2 ⟨numeric, read⟩]

/-- An address means a number that its last two parts do not belong to. -/
theorem readValue_address :
    readValue {} (some "10.0.0.1".toList) = .scalar (.number (.int 10)) ∧
      NumberHead.ofText? {} "10.0.0.1".toList =
        some ⟨false, "10".toList, some "0".toList, ".0.1".toList⟩ := by
  constructor <;> rfl

/-! ## Texts that numbers are written as -/

/-- Numbers that have a text which is read back: integers of as many digits as are converted, and
the finite floating-point numbers. -/
inductive Number.Bounded : Number → Prop where
  | int {n : Int} (digits : (Nat.toDigits 10 n.natAbs).length ≤ 4300) : Bounded (.int n)
  | finite {negative : Bool} {x : Magnitude} : Bounded (.float (.finite negative x))

namespace Number.Bounded

variable {n : Number} (h : n.Bounded)
include h

theorem readable : n.Readable {} := by
  cases h with
  | int digits => exact .int ((Nat.length_toDigits_le_iff (by decide) (by decide)).1 digits)
  | finite => exact .float rfl (by decide)

theorem plainDecimal_write : PlainDecimal n.write := by
  cases h with
  | int _ => exact plainDecimal_intDigits _
  | finite => exact Binary64.plainDecimal_write _ _

end Number.Bounded

/-- **Numbers are written as plain decimals that read back.** The separators are not asked for the
text, which has neither an exponent nor a comma. So no separators make a list of it, and the usual
ones make a number of it that is equal to the one written. -/
theorem exists_plainDecimal_write {n : Number} (h : n.Bounded) :
    ∃ t, (Value.scalar (.number n)).write = .ok t ∧ PlainDecimal t ∧
      (∀ s items, readValue s (some t) ≠ .list items) ∧
      ∃ m, readValue {} (some t) = .scalar (.number m) ∧ m.same n = true := by
  have plain := h.plainDecimal_write
  have bare : Commas.isList n.write = false :=
    Commas.isList_eq_false (plain.not_mem (by decide) rfl)
  have grouping : ∀ c ∈ ({} : Separators).grouping, c.isDigit = false :=
    List.forall_mem_singleton.2 rfl
  refine ⟨n.write, rfl, plain, ?_, n.plain, ?_, Number.same_plain h.readable⟩
  · intro s items list
    rw [readValue_of_bare s bare] at list
    cases list
  · rw [readValue_of_bare {} bare, readScalar_number grouping h.readable]

/-- The number nearest to a tenth, with the sign. -/
theorem exists_plainDecimal_write_tenth :
    let x : Magnitude :=
      ⟨7205759403792794, -56, by decide, by decide, .inl (by decide)⟩
    (Number.float (.finite true x)).Bounded ∧
      ∃ m, readValue {} (some "-0.1".toList) = .scalar (.number m) ∧
        m.same (.float (.finite true x)) = true := by
  intro x
  have bounded : (Number.float (.finite true x)).Bounded := .finite
  have text : (Number.float (.finite true x)).write = "-0.1".toList := by decide +kernel
  obtain ⟨t, written, -, -, reread⟩ := exists_plainDecimal_write bounded
  rw [Value.write, Scalar.write, text, Except.ok.injEq] at written
  exact ⟨bounded, written ▸ reread⟩

end Criteria
