import Criteria.Number.Reading
import Criteria.Text.LetterCase
import Criteria.Time.Timestamp
import Criteria.Value.Commas

/-!
# Reading values

What a search text means is decided by rules in a fixed order. The first rule that applies and
yields a value wins; a text that no rule takes stands for itself, its escaped commas turned back
into plain ones.
-/

namespace Criteria
set_option autoImplicit false

/-- The truth value that a word names in any letter case. -/
def readBool (t : Text) : Option Bool :=
  let word := lowercase t
  if word = "true".toList then some true
  else if word = "false".toList then some false
  else none

/-- Whether the text names the null value in any letter case. -/
def isNull (t : Text) : Bool := lowercase t = "null".toList

/-- A way to take a text as a scalar. -/
inductive ScalarRule where
  | bool
  | timestamp
  | number
deriving DecidableEq, Repr

namespace ScalarRule

/-- What the rule makes of a text. -/
def read (s : Separators) (t : Text) : ScalarRule → Option Scalar
  | .bool => (readBool t).map .bool
  | .timestamp => (Timestamp.read? t).map fun time => .moment (.utc time)
  | .number => if looksNumeric t then (readNumber s t).map .number else none

/-- The rules in their usual order. -/
def all : List ScalarRule := [.bool, .timestamp, .number]

end ScalarRule

/-- The scalar that the given rules make of a text that is no list. -/
def readScalarBy (rules : List ScalarRule) (s : Separators) (t : Text) : Scalar :=
  if isNull t then .null
  else (rules.findSome? (·.read s t)).getD (.text (Commas.unescape t))

/-- The scalar that a text means if it is no list. -/
def readScalar (s : Separators) (t : Text) : Scalar := readScalarBy ScalarRule.all s t

/-- A way to take a text as a value. -/
inductive Rule where
  | list
  | scalar (rule : ScalarRule)
deriving DecidableEq, Repr

namespace Rule

/-- What the rule makes of a text; the items of a list are scalars. -/
def read (s : Separators) (t : Text) : Rule → Option Value
  | .list =>
    if Commas.isList t then
      some (.list ((Commas.split t).map fun item => .scalar (readScalar s item)))
    else none
  | .scalar rule => (rule.read s t).map .scalar

/-- The rules in their usual order. -/
def all : List Rule := .list :: ScalarRule.all.map .scalar

end Rule

/-- The value that the given rules make of a text. -/
def readValueBy (rules : List Rule) (s : Separators) (t : Text) : Value :=
  if isNull t then .scalar .null
  else (rules.findSome? (·.read s t)).getD (.ofText (Commas.unescape t))

/-- The value that a text means; no text at all means null. -/
def readValue (s : Separators) : Option Text → Value
  | none => .scalar .null
  | some t => readValueBy Rule.all s t

end Criteria
