import Criteria.Path
import Criteria.Proofs.Text.Joining

/-!
# Keys and the segments of their paths

Resolving a key and joining the segments of a path are inverse to each other: a key that is not
blank is the join of the segments of its path, which have no dots in them, and segments without dots
are those of their join. If a path has relationships, their join is what stands before the last
dot of the key.
-/

namespace Criteria.Path
set_option autoImplicit false

/-- The segments of a path: its relationships, and its field at the end. -/
def segments (path : Path) : List Text := path.hops ++ [path.field]

theorem join_append_singleton {segments : List Text} (ne : segments ≠ []) (last : Text) :
    join (segments ++ [last]) = join segments ++ '.' :: last := by
  rw [join, intercalate_append ne (List.cons_ne_nil _ _), List.intercalate_singleton, join]

theorem ofKey_of_blank {key : Text} (blank : isBlankText key = true) :
    ofKey (some key) = ⟨[], []⟩ := by
  rw [ofKey, if_pos blank]

theorem eq_of_segments {path : Path} {pieces : List Text} (ne : pieces ≠ [])
    (eq : path.segments = pieces) : path = ⟨pieces.dropLast, pieces.getLast ne⟩ := by
  subst eq
  simp [segments]

section Named

variable {key : Text} (named : isBlankText key = false)
include named

/-- The segments of a key that is not blank stand between its dots. -/
theorem segments_ofKey : (ofKey (some key)).segments = List.splitOn '.' key := by
  have ne : List.splitOn '.' key ≠ [] := List.splitOn_ne_nil '.' key
  simp only [segments, ofKey, named, Bool.false_eq_true, if_false]
  rw [List.getLastD_eq_getLast?, List.getLast?_eq_some_getLast ne, Option.getD_some,
    List.dropLast_concat_getLast ne]

/-- The segments of a key that is not blank make up the key. -/
theorem join_ofKey : join (ofKey (some key)).segments = key := by
  rw [segments_ofKey named]
  exact List.intercalate_splitOn '.'

end Named

/-- The relationships of a path are joined to the key up to its last dot. -/
theorem eq_join_hops {key : Text} (hops : (ofKey (some key)).hops ≠ []) :
    key = join (ofKey (some key)).hops ++ '.' :: (ofKey (some key)).field := by
  cases named : isBlankText key with
  | true =>
    rw [ofKey_of_blank named] at hops
    exact absurd rfl hops
  | false => rw [← join_append_singleton hops, ← segments, join_ofKey named]

/-- **Keys and paths are inverse to each other.** A key that is not blank is exactly the join of the
segments of its path, none of which has a dot in it. Pieces without dots whose join is not blank are
the segments that the join is resolved into: the last one is the field, the others are the
relationships. No key at all and any key of blanks only name the record itself. -/
theorem ofKey_exact :
    (∀ key, isBlankText key = false →
      (∀ segment ∈ (ofKey (some key)).segments, '.' ∉ segment) ∧
        join (ofKey (some key)).segments = key) ∧
    (∀ (pieces : List Text) (ne : pieces ≠ []), (∀ piece ∈ pieces, '.' ∉ piece) →
      isBlankText (join pieces) = false →
        ofKey (some (join pieces)) = ⟨pieces.dropLast, pieces.getLast ne⟩) ∧
    ofKey none = ⟨[], []⟩ ∧ ∀ key, isBlankText key = true → ofKey (some key) = ⟨[], []⟩ := by
  refine ⟨?_, ?_, rfl, fun key => ofKey_of_blank⟩
  · intro key named
    refine ⟨?_, join_ofKey named⟩
    rw [segments_ofKey named]
    exact fun segment => not_mem_of_mem_splitOn
  · intro pieces ne dotless named
    apply eq_of_segments ne
    rw [segments_ofKey named]
    exact List.splitOn_intercalate '.' dotless ne

/-- A key with a dot at its start, a doubled dot and blanks around a segment, and a key of blanks
that are not all ASCII. -/
theorem ofKey_exact_degenerate :
    isBlankText ". a ..b".toList = false ∧
      ofKey (some ". a ..b".toList) = ⟨[[], " a ".toList, []], ['b']⟩ ∧
      join (ofKey (some ". a ..b".toList)).segments = ". a ..b".toList ∧
      isBlankText "\u3000\u00a0\t".toList = true ∧
      ofKey (some "\u3000\u00a0\t".toList) = ⟨[], []⟩ := by
  obtain ⟨joined, resolved, -, blank⟩ := ofKey_exact
  have named : isBlankText ". a ..b".toList = false := by decide
  have blanks : isBlankText "\u3000\u00a0\t".toList = true := by decide
  refine ⟨named, ?_, (joined _ named).2, blanks, blank _ blanks⟩
  exact resolved [[], " a ".toList, [], ['b']] (by simp) (by decide) named

end Criteria.Path
