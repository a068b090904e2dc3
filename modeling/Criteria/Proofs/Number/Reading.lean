import Criteria.Number.Reading
import Criteria.Proofs.Number.Numeral
import Mathlib.Data.List.TakeWhile

/-!
# Reading numbers in plain digits

A number in ASCII digits is read as it is written, whatever the separators, as long as grouping has
no digit; a fraction needs the point as decimal separator.
-/

namespace Criteria
set_option autoImplicit false

open Numeral (signed)

theorem dropStart?_eq_some {start t tail : Text} (h : dropStart? start t = some tail) :
    t = start ++ tail := by
  unfold dropStart? at h
  split at h
  · next isPrefix =>
    obtain ⟨rest, rfl⟩ := List.isPrefixOf_iff_prefix.1 isPrefix
    cases h
    rw [List.drop_left]
  · cases h

theorem dropStart?_append (start tail : Text) : dropStart? start (start ++ tail) = some tail := by
  have isPrefix : start.isPrefixOf (start ++ tail) = true :=
    List.isPrefixOf_iff_prefix.2 (List.prefix_append _ _)
  rw [dropStart?, if_pos isPrefix, List.drop_left]

theorem dropStart?_eq_none_iff {start t : Text} : dropStart? start t = none ↔ ¬ start <+: t := by
  simp [dropStart?]

/-- A row of characters of a class ends where the class is left. -/
theorem span_append {p : Char → Bool} {t after : Text} (row : ∀ c ∈ t, p c = true)
    (stop : ∀ c, after.head? = some c → p c = false) :
    (t ++ after).takeWhile p = t ∧ (t ++ after).dropWhile p = after := by
  rw [List.takeWhile_append_of_pos row, List.dropWhile_append_of_pos row]
  cases after with
  | nil => exact ⟨List.append_nil t, rfl⟩
  | cons d after =>
    have last := stop d rfl
    exact ⟨by simp [last], by simp [last]⟩

/-- A character that does not occur in a word stays when the word is removed. -/
theorem removeAll_cons {word : Text} {c : Char} (h : c ∉ word) (t : Text) :
    removeAll word (c :: t) = c :: removeAll word t := by
  cases word with
  | nil => rfl
  | cons d word =>
    have other : ¬ d = c := fun eq => h (by simp [eq])
    simp [removeAll, removeFrom, other]

/-- A word without digits does not occur in a row of digits. -/
theorem removeAll_eq_self {word t : Text} (h : ∀ c ∈ word, c.isDigit = false)
    (digits : ∀ c ∈ t, c.isDigit = true) : removeAll word t = t := by
  induction t with
  | nil => cases word <;> rfl
  | cons c t ih =>
    have absent : c ∉ word := by
      intro mem
      have digit := digits c List.mem_cons_self
      rw [h c mem] at digit
      cases digit
    rw [removeAll_cons absent, ih fun d mem => digits d (List.mem_cons_of_mem _ mem)]

theorem minus_ne_of_isDecimalDigit {c : Char} (h : isDecimalDigit c = true) : c ≠ '-' := by
  rintro rfl
  revert h
  decide

namespace NumberHead

/-- The head of a text, by the parts of the text. -/
theorem ofText?_signed (s : Separators) (negative : Bool) {c : Char} (rest : Text)
    (h : isDecimalDigit c = true) :
    ofText? s (signed negative (c :: rest)) = some {
      negative := negative
      whole := c :: rest.takeWhile (continues s)
      fraction := (dropStart? s.decimal (rest.dropWhile (continues s))).map
        (·.takeWhile isDecimalDigit)
      rest := ((dropStart? s.decimal (rest.dropWhile (continues s))).map
        (·.dropWhile isDecimalDigit)).getD (rest.dropWhile (continues s)) } := by
  cases negative with
  | true =>
    show ofText? s ('-' :: c :: rest) = _
    simp only [ofText?, h, if_true]
    cases dropStart? s.decimal (rest.dropWhile (continues s)) <;> rfl
  | false =>
    show ofText? s (c :: rest) = _
    unfold ofText?
    split
    next negative body eq =>
    split at eq
    · next minus =>
      cases minus
      exact absurd rfl (minus_ne_of_isDecimalDigit h)
    · cases eq
      simp only [h, if_true]
      cases dropStart? s.decimal (rest.dropWhile (continues s)) <;> rfl

/-- Only a text that starts with a digit, or a minus sign and a digit, has a head. -/
theorem exists_of_ofText? {s : Separators} {t : Text} {head : NumberHead}
    (h : ofText? s t = some head) :
    ∃ negative c rest, t = signed negative (c :: rest) ∧ isDecimalDigit c = true := by
  unfold ofText? at h
  split at h
  next negative body eq =>
  have text : t = signed negative body := by
    split at eq <;> cases eq <;> rfl
  split at h
  · cases h
  · next c rest =>
    split at h
    · next digit => exact ⟨negative, c, rest, text, digit⟩
    · cases h

end NumberHead

section Plain

variable {s : Separators} (grouping : ∀ c ∈ s.grouping, c.isDigit = false)

namespace NumberHead

theorem continues_of_isDigit {c : Char} (h : c.isDigit = true) : continues s c = true := by
  rw [continues, isDecimalDigit_of_isDigit h, Bool.true_or]

theorem continues_eq_false_iff {c : Char} :
    continues s c = false ↔ isDecimalDigit c = false ∧ c ∉ s.grouping := by
  simp [continues]

/-- A row of digits is the integer part if nothing behind it continues it. -/
theorem ofText?_digits (negative : Bool) {t : Text} (after : Text) (ne : t ≠ [])
    (digits : ∀ c ∈ t, c.isDigit = true)
    (stop : ∀ c, after.head? = some c → continues s c = false) :
    ofText? s (signed negative (t ++ after)) = some {
      negative := negative
      whole := t
      fraction := (dropStart? s.decimal after).map (·.takeWhile isDecimalDigit)
      rest := ((dropStart? s.decimal after).map (·.dropWhile isDecimalDigit)).getD after } := by
  obtain ⟨c, rest, rfl⟩ := List.exists_cons_of_ne_nil ne
  have first := isDecimalDigit_of_isDigit (digits c (by simp))
  have others : ∀ d ∈ rest, continues s d = true := fun d mem =>
    continues_of_isDigit (digits d (List.mem_cons_of_mem _ mem))
  obtain ⟨taken, dropped⟩ := span_append others stop
  rw [List.cons_append, ofText?_signed s negative _ first, taken, dropped]

include grouping in
theorem numeral_digits {negative : Bool} {t : Text} (digits : ∀ c ∈ t, c.isDigit = true)
    (fraction : Option Text) (rest : Text) :
    numeral s ⟨negative, t, fraction, rest⟩ = signed negative t := by
  rw [numeral, removeAll_eq_self grouping digits, signed]

end NumberHead

include grouping in
/-- A row of digits is read as the integer that it writes. -/
theorem readNumber_digits (negative : Bool) {t : Text} (ne : t ≠ [])
    (digits : ∀ c ∈ t, c.isDigit = true) (length : t.length ≤ Numeral.maxDigits) :
    readNumber s (signed negative t) = some (.int (if negative then
      -(Nat.ofDigitChars 10 t 0 : Int) else Nat.ofDigitChars 10 t 0)) := by
  have head := NumberHead.ofText?_digits (s := s) negative [] ne digits
    fun c none => by cases none
  have proper : ((dropStart? s.decimal []).map (·.takeWhile isDecimalDigit)).filter
      (fun f => f.any (· != '0')) = none := by
    cases dropped : dropStart? s.decimal [] with
    | none => rfl
    | some tail =>
      obtain rfl : tail = [] := (List.append_eq_nil_iff.1 (dropStart?_eq_some dropped).symm).2
      rfl
  rw [List.append_nil] at head
  have decimal_digits : ∀ c ∈ t, isDecimalDigit c = true := fun c mem =>
    isDecimalDigit_of_isDigit (digits c mem)
  simp only [readNumber, head, Option.bind_eq_bind, Option.bind_some, NumberHead.number?,
    NumberHead.properFraction?, proper, NumberHead.numeral_digits grouping digits,
    Numeral.int?_signed ne decimal_digits, if_pos length, Numeral.written_of_isDigit digits]
  rfl

include grouping in
/-- Two rows of digits with a point between them are read as the fraction that they write. -/
theorem readNumber_fraction (decimal : s.decimal = ['.']) (point : '.' ∉ s.grouping)
    (negative : Bool) {whole fraction : Text} (ne : whole ≠ [])
    (digits : ∀ c ∈ whole ++ fraction, c.isDigit = true)
    (proper : fraction.any (· != '0') = true) :
    readNumber s (signed negative (whole ++ '.' :: fraction)) =
      (Binary64.ofRat? negative (scaled 10 (Nat.ofDigitChars 10 (whole ++ fraction) 0)
        (-(fraction.length : Int)))).map .float := by
  have whole_digits : ∀ c ∈ whole, c.isDigit = true := fun c mem =>
    digits c (List.mem_append_left _ mem)
  have fraction_digits : ∀ c ∈ fraction, isDecimalDigit c = true := fun c mem =>
    isDecimalDigit_of_isDigit (digits c (List.mem_append_right _ mem))
  have fraction_ne : fraction ≠ [] := by
    rintro rfl
    cases proper
  have stop : NumberHead.continues s '.' = false :=
    NumberHead.continues_eq_false_iff.2 ⟨by decide, point⟩
  have head := NumberHead.ofText?_digits (s := s) negative ('.' :: fraction) ne
    whole_digits fun c first => by cases first; exact stop
  have dropped : dropStart? s.decimal ('.' :: fraction) = some fraction := by
    rw [decimal]
    exact dropStart?_append ['.'] fraction
  rw [dropped] at head
  have decimal_digits : ∀ c ∈ whole ++ fraction, isDecimalDigit c = true := fun c mem =>
    isDecimalDigit_of_isDigit (digits c mem)
  simp only [readNumber, head, Option.bind_eq_bind, Option.bind_some, NumberHead.number?,
    NumberHead.properFraction?, Option.map_some, List.takeWhile_eq_self_iff.2 fraction_digits,
    Option.filter_some, proper, if_true, NumberHead.numeral_digits grouping whole_digits,
    Numeral.fraction?_signed ne fraction_ne decimal_digits, Numeral.written_of_isDigit digits]
  cases Binary64.ofRat? negative _ <;> rfl

end Plain

/-! ## Texts that look like numbers -/

theorem looksNumeric_signed (negative : Bool) {c : Char} (rest : Text)
    (h : isDecimalDigit c = true) :
    looksNumeric (signed negative (c :: rest)) =
      (rest.dropWhile isDecimalDigit).all
        fun c => c == ',' || c == '.' || (asciiDigit? c).isSome := by
  have body : looksNumeric (signed negative (c :: rest)) =
      (!((c :: rest).takeWhile isDecimalDigit).isEmpty &&
        ((c :: rest).dropWhile isDecimalDigit).all
          fun c => c == ',' || c == '.' || (asciiDigit? c).isSome) := by
    cases negative with
    | true => rfl
    | false =>
      show looksNumeric (c :: rest) = _
      unfold looksNumeric
      split
      · next minus =>
        cases minus
        exact absurd rfl (minus_ne_of_isDecimalDigit h)
      · rfl
  rw [body, List.takeWhile_cons_of_pos h, List.dropWhile_cons_of_pos h]
  rfl

/-- A text that looks like a number has a digit at its start, behind the sign. -/
theorem exists_of_looksNumeric {t : Text} (h : looksNumeric t = true) :
    ∃ negative c rest, t = signed negative (c :: rest) ∧ isDecimalDigit c = true := by
  have body : ∃ negative body, t = signed negative body ∧
      (body.takeWhile isDecimalDigit).isEmpty = false := by
    unfold looksNumeric at h
    simp only [Bool.and_eq_true, Bool.not_eq_true'] at h
    split at h
    · next rest => exact ⟨true, rest, rfl, h.1⟩
    · exact ⟨false, t, rfl, h.1⟩
  obtain ⟨negative, body, rfl, nonempty⟩ := body
  cases body with
  | nil => cases nonempty
  | cons c rest =>
    refine ⟨negative, c, rest, rfl, ?_⟩
    by_contra no
    rw [List.takeWhile_cons_of_neg no] at nonempty
    cases nonempty

/-- Behind the first digit there are only digits, commas and points. -/
theorem mem_of_looksNumeric {negative : Bool} {c d : Char} {rest : Text}
    (h : looksNumeric (signed negative (c :: rest)) = true) (digit : isDecimalDigit c = true)
    (mem : d ∈ rest) : d = ',' ∨ d = '.' ∨ isDecimalDigit d = true := by
  rw [looksNumeric_signed negative rest digit, List.all_eq_true] at h
  rw [← List.takeWhile_append_dropWhile (p := isDecimalDigit) (l := rest)] at mem
  rcases List.mem_append.1 mem with taken | left
  · exact Or.inr (Or.inr (List.mem_takeWhile_imp taken))
  · have tail := h d left
    simp only [Bool.or_eq_true, beq_iff_eq] at tail
    rcases tail with (comma | point) | ascii
    · exact Or.inl comma
    · exact Or.inr (Or.inl point)
    · exact Or.inr (Or.inr (isDecimalDigit_of_isDigit (isDigit_of_asciiDigit? ascii)))

/-- No letter and no escape can stand in a text that looks like a number. -/
theorem looksNumeric_of_mem {t : Text} {c : Char} (mem : c ∈ t) (mark : c ∉ ['-', ',', '.'])
    (noDigit : isDecimalDigit c = false) : looksNumeric t = false := by
  rw [← Bool.not_eq_true]
  intro h
  simp only [List.mem_cons, List.not_mem_nil, or_false, not_or] at mark
  obtain ⟨negative, first, rest, rfl, digit⟩ := exists_of_looksNumeric h
  rcases Numeral.mem_signed mem with sign | mem
  · exact mark.1 sign
  · rcases List.mem_cons.1 mem with rfl | mem
    · rw [noDigit] at digit
      cases digit
    · rcases mem_of_looksNumeric h digit mem with comma | point | other
      · exact mark.2.1 comma
      · exact mark.2.2 point
      · rw [noDigit] at other
        cases other

theorem not_mem_of_looksNumeric {t : Text} (h : looksNumeric t = true) : '\\' ∉ t := by
  intro mem
  rw [looksNumeric_of_mem mem (by decide) (by decide)] at h
  cases h

theorem looksNumeric_digits (negative : Bool) {t : Text} (ne : t ≠ [])
    (digits : ∀ c ∈ t, c.isDigit = true) : looksNumeric (signed negative t) = true := by
  obtain ⟨c, rest, rfl⟩ := List.exists_cons_of_ne_nil ne
  rw [looksNumeric_signed negative rest (isDecimalDigit_of_isDigit (digits c (by simp))),
    List.dropWhile_eq_nil_iff.2 fun d mem =>
      isDecimalDigit_of_isDigit (digits d (List.mem_cons_of_mem _ mem))]
  rfl

theorem looksNumeric_fraction (negative : Bool) {whole fraction : Text} (ne : whole ≠ [])
    (digits : ∀ c ∈ whole ++ fraction, c.isDigit = true) :
    looksNumeric (signed negative (whole ++ '.' :: fraction)) = true := by
  obtain ⟨c, rest, rfl⟩ := List.exists_cons_of_ne_nil ne
  have point : ('.' :: fraction).dropWhile isDecimalDigit = '.' :: fraction :=
    List.dropWhile_cons_of_neg (by decide)
  rw [List.cons_append,
    looksNumeric_signed negative _ (isDecimalDigit_of_isDigit (digits c (by simp))),
    List.dropWhile_append_of_pos fun d mem =>
      isDecimalDigit_of_isDigit (digits d (by simp [mem])), point, List.all_eq_true]
  intro d mem
  rcases List.mem_cons.1 mem with rfl | mem
  · rfl
  · simp [asciiDigit?_of_isDigit (digits d (by simp [mem]))]

end Criteria
