import Criteria.Text.Blank

/-!
# Field paths

A dotted key names a chain of relationships and a field at its end. A blank key names the record
itself: no relationships, and an empty field.
-/

namespace Criteria
set_option autoImplicit false

/-- The relationships to follow, and the field to look up at their end. -/
structure Path where
  hops : List Text
  field : Text
deriving DecidableEq, Repr

namespace Path

/-- The path that a key names; no key at all names the record itself. -/
def ofKey : Option Text → Path
  | none => ⟨[], []⟩
  | some key =>
    if isBlankText key then ⟨[], []⟩
    else
      let segments := List.splitOn '.' key
      ⟨segments.dropLast, segments.getLastD []⟩

/-- Segments with a dot between any two. -/
def join (segments : List Text) : Text := List.intercalate ['.'] segments

end Path

end Criteria
