import Criteria.Text.Basic

/-!
# Comma lists

The items of a list stand between commas. A comma behind a backslash is no separator; the two
together stand for a plain comma. A backslash itself has no escape.
-/

namespace Criteria
set_option autoImplicit false

namespace Commas

/-- The parts between bare commas, escapes left in place. `escaped` tells whether a backslash stands
before the text. There is always at least one part. -/
def parts (escaped : Bool) : Text → List Text
  | [] => [[]]
  | c :: rest =>
    if c == ',' && !escaped then [] :: parts false rest
    else
      match parts (c == '\\') rest with
      | [] => [[c]]
      | first :: others => (c :: first) :: others

/-- The items of a list text: its parts, without empty ones at the end. -/
def split (t : Text) : List Text := ((parts false t).reverse.dropWhile List.isEmpty).reverse

/-- Whether a bare comma occurs. -/
def hasBare (escaped : Bool) : Text → Bool
  | [] => false
  | c :: rest => (c == ',' && !escaped) || hasBare (c == '\\') rest

/-- Whether the text is a list: it has a comma that no backslash precedes. -/
def isList (t : Text) : Bool := hasBare false t

/-- The text with a plain comma for every escaped one. -/
def unescape : Text → Text
  | '\\' :: ',' :: rest => ',' :: unescape rest
  | c :: rest => c :: unescape rest
  | [] => []

/-- The text with a backslash before every comma. -/
def escape (t : Text) : Text := t.flatMap fun c => if c == ',' then ['\\', ','] else [c]

/-- The texts with a comma between any two. -/
def join (ts : List Text) : Text := List.intercalate [','] ts

end Commas

end Criteria
