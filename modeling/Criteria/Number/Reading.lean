import Criteria.Number.Numeral
import Criteria.Value.Basic

/-!
# Reading numbers

A number is read from the start of a text: a sign, digits with grouping among them, and possibly a
decimal separator with further digits. Whatever follows is left alone. A number is an integer unless
its fraction has a character other than the ASCII zero.
-/

namespace Criteria
set_option autoImplicit false

/-- The separators of the numbers to be read, texts of any length. -/
structure Separators where
  grouping : Text := [',']
  decimal : Text := ['.']
deriving DecidableEq, Repr

/-- The text without the first `skipped` characters, and without the occurrences of `word` after
them, searched from the left. -/
def removeFrom (word : Text) (skipped : Nat) : Text → Text
  | [] => []
  | c :: rest =>
    if skipped ≠ 0 then removeFrom word (skipped - 1) rest
    else if word.isPrefixOf (c :: rest) then removeFrom word (word.length - 1) rest
    else c :: removeFrom word 0 rest

/-- The text without the occurrences of `word`; an empty word occurs nowhere. -/
def removeAll (word t : Text) : Text := if word.isEmpty then t else removeFrom word 0 t

/-- The pieces of the number at the start of a text, and the rest of the text. -/
structure NumberHead where
  negative : Bool
  whole : Text
  fraction : Option Text
  rest : Text
deriving DecidableEq, Repr

namespace NumberHead

/-- Whether the character may stand behind the first digit of the integer part. -/
def continues (s : Separators) (c : Char) : Bool := isDecimalDigit c || s.grouping.contains c

/-- The longest number at the start of the text. -/
def ofText? (s : Separators) (t : Text) : Option NumberHead :=
  let (negative, body) := match t with
    | '-' :: rest => (true, rest)
    | _ => (false, t)
  match body with
  | [] => none
  | c :: rest =>
    if isDecimalDigit c then
      let whole := c :: rest.takeWhile (continues s)
      let after := rest.dropWhile (continues s)
      match dropStart? s.decimal after with
      | some tail =>
        some ⟨negative, whole, some (tail.takeWhile isDecimalDigit), tail.dropWhile isDecimalDigit⟩
      | none => some ⟨negative, whole, none, after⟩
    else none

/-- The integer part with its sign and without grouping. -/
def numeral (s : Separators) (h : NumberHead) : Text :=
  (if h.negative then ['-'] else []) ++ removeAll s.grouping h.whole

/-- The fraction, if it makes the number a floating-point one. -/
def properFraction? (h : NumberHead) : Option Text := h.fraction.filter fun f => f.any (· != '0')

/-- The number that the pieces make, unless what is left between the digits is no numeral or the
number is too large. -/
def number? (s : Separators) (h : NumberHead) : Option Number :=
  match h.properFraction? with
  | some fraction => do
    let (negative, magnitude) ← Numeral.fraction? (h.numeral s) fraction
    return .float (← Binary64.ofRat? negative magnitude)
  | none => (Numeral.int? (h.numeral s)).map .int

end NumberHead

/-- The number at the start of a text. -/
def readNumber (s : Separators) (t : Text) : Option Number := do
  (← NumberHead.ofText? s t).number? s

/-- Whether the text looks like a number throughout, before the separators are asked: an optional
minus sign, digits, and then only commas, points and ASCII digits. -/
def looksNumeric (t : Text) : Bool :=
  let body := match t with
    | '-' :: rest => rest
    | _ => t
  !(body.takeWhile isDecimalDigit).isEmpty &&
    (body.dropWhile isDecimalDigit).all fun c => c == ',' || c == '.' || (asciiDigit? c).isSome

end Criteria
