/-!
# Text

Text is read and written character by character, so it is a list of characters.
-/

namespace Criteria
set_option autoImplicit false

/-- A text that is taken apart by character. -/
abbrev Text := List Char

/-- The rest of the text after the given start, if the text has that start. -/
def dropStart? (start t : Text) : Option Text :=
  if start.isPrefixOf t then some (t.drop start.length) else none

end Criteria
