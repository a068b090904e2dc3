import Criteria.Text.CodeRange

/-!
# Blanks

The characters that count as white space: the Unicode property, and the four information separators
U+001C to U+001F with it.
-/

namespace Criteria
set_option autoImplicit false

/-- The ranges of blank characters. -/
def blankRanges : List CodeRange :=
  [⟨0x09, 0x0d⟩, ⟨0x1c, 0x20⟩, ⟨0x85, 0x85⟩, ⟨0xa0, 0xa0⟩, ⟨0x1680, 0x1680⟩, ⟨0x2000, 0x200a⟩,
   ⟨0x2028, 0x2029⟩, ⟨0x202f, 0x202f⟩, ⟨0x205f, 0x205f⟩, ⟨0x3000, 0x3000⟩]

/-- Whether the character is blank. -/
def isBlank (c : Char) : Bool := inRanges blankRanges c

/-- A text without any character that is not blank. -/
def isBlankText (t : Text) : Bool := t.all isBlank

/-- The text without the blanks at its end. -/
def dropTrailingBlanks (t : Text) : Text := (t.reverse.dropWhile isBlank).reverse

end Criteria
