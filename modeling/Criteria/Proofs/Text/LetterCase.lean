import Criteria.Proofs.Text.DecimalDigit
import Criteria.Text.LetterCase

/-!
# Characters without letter case

A character that is its own lower form is kept by lower case, wherever it stands. So a text with a
digit, a comma or a hyphen is no word in any letter case.
-/

namespace Criteria
set_option autoImplicit false

/-- A character that is its own lower form in every context. -/
def isCaseless (c : Char) : Bool := c.toNat != 0x3a3 && lowerForm c == [c]

theorem mem_lowercaseFrom {c : Char} (caseless : isCaseless c = true) {t : Text} (mem : c ∈ t)
    (afterCased : Bool) : c ∈ lowercaseFrom afterCased t := by
  rw [isCaseless, Bool.and_eq_true, bne_iff_ne, beq_iff_eq] at caseless
  induction t generalizing afterCased with
  | nil => cases mem
  | cons d t ih =>
    rw [lowercaseFrom]
    rcases List.mem_cons.1 mem with rfl | mem
    · apply List.mem_append_left
      rw [if_neg (by simpa using caseless.1), caseless.2]
      exact List.mem_singleton.2 rfl
    · exact List.mem_append_right _ (ih mem _)

theorem mem_lowercase {c : Char} (caseless : isCaseless c = true) {t : Text} (mem : c ∈ t) :
    c ∈ lowercase t :=
  mem_lowercaseFrom caseless mem false

theorem isCaseless_comma : isCaseless ',' = true := by decide

theorem isCaseless_hyphen : isCaseless '-' = true := by decide

/-- A digit of any script is no letter, so it is its own lower form. -/
theorem isCaseless_of_isDecimalDigit {c : Char} (h : isDecimalDigit c = true) :
    isCaseless c = true := by
  let letters : List CodeRange :=
    ⟨0x130, 0x130⟩ :: ⟨0x3a3, 0x3a3⟩ :: lowerRows.map fun r => ⟨r.first, r.last⟩
  have apart : inRanges letters c = false := inRanges_eq_false (by decide +kernel) h
  simp only [letters, inRanges, List.any_cons, CodeRange.holds, Bool.or_eq_false_iff,
    List.any_map] at apart
  obtain ⟨dotted, sigma, rows⟩ := apart
  have plain : lowerRows.find? (·.holds c) = none := by
    rw [List.find?_eq_none]
    intro r mem holds
    have range := List.any_eq_false.1 rows r mem
    simp only [CaseRow.holds, Bool.and_eq_true] at holds
    simp [holds.1.1, holds.1.2] at range
  have dotted_ne : c.toNat ≠ 0x130 := by
    rintro eq
    simp [eq] at dotted
  have sigma_ne : c.toNat ≠ 0x3a3 := by
    rintro eq
    simp [eq] at sigma
  simp [isCaseless, lowerForm, dotted_ne, sigma_ne, plain]

end Criteria
