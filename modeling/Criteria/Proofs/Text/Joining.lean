import Criteria.Text.Basic

/-!
# Texts with a character between any two

Joined lists of texts are joined by the character between them. Taken apart at a character, a text
leaves pieces without it.
-/

namespace Criteria
set_option autoImplicit false

theorem intercalate_append {c : Char} {ts us : List Text} (left : ts ≠ []) (right : us ≠ []) :
    List.intercalate [c] (ts ++ us) = List.intercalate [c] ts ++ c :: List.intercalate [c] us := by
  induction ts with
  | nil => exact absurd rfl left
  | cons t ts ih =>
    have rest : ts ++ us ≠ [] := List.append_ne_nil_of_right_ne_nil _ right
    rw [List.cons_append, List.intercalate_cons_of_ne_nil rest]
    by_cases single : ts = []
    · subst single
      simp [List.intercalate_singleton]
    · rw [ih single, List.intercalate_cons_of_ne_nil single]
      simp only [List.append_assoc]

theorem not_mem_of_mem_splitOn {c : Char} {t piece : Text} (mem : piece ∈ List.splitOn c t) :
    c ∉ piece := by
  induction t generalizing piece with
  | nil =>
    rw [List.splitOn_nil, List.mem_singleton] at mem
    rw [mem]
    exact List.not_mem_nil
  | cons d t ih =>
    rw [List.splitOn_cons_eq_if_modifyHead] at mem
    split at mem
    · rcases List.mem_cons.1 mem with rfl | mem
      · exact List.not_mem_nil
      · exact ih mem
    · next other =>
      -- The character belongs to the first piece of the rest.
      obtain ⟨first, others, rest⟩ := List.exists_cons_of_ne_nil (List.splitOn_ne_nil c t)
      rw [rest] at mem ih
      rw [List.modifyHead_cons] at mem
      rcases List.mem_cons.1 mem with rfl | mem
      · rw [List.mem_cons, not_or]
        exact ⟨fun eq => other (by simp [eq]), ih List.mem_cons_self⟩
      · exact ih (List.mem_cons_of_mem _ mem)

end Criteria
