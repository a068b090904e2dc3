import Criteria.Number.Binary64
import Criteria.Text.Basic
import Criteria.Time.Calendar

/-!
# Typed values

A value is a scalar, a list or a tuple. Two values are the same if they are equal in kind and
content, except that truth values count as 0 and 1 and all numbers are compared by their exact
value.
-/

namespace Criteria
set_option autoImplicit false

/-- A number: an integer of any size, or a binary floating-point number. -/
inductive Number where
  | int (n : Int)
  | float (x : Binary64)
deriving DecidableEq, Repr

/-- A value without parts. -/
inductive Scalar where
  | null
  | bool (b : Bool)
  | number (n : Number)
  | moment (m : Moment)
  | text (t : Text)
deriving DecidableEq, Repr

/-- A typed value. -/
inductive Value where
  | scalar (s : Scalar)
  | list (items : List Value)
  | tuple (items : List Value)
deriving Repr

namespace Number

/-- The exact value of a finite number. -/
def toRat? : Number → Option Rat
  | .int n => some n
  | .float x => x.toRat?

/-- Numbers are the same if they have the same exact value or are the same infinity. -/
def same (a b : Number) : Bool :=
  match a.toRat?, b.toRat? with
  | some p, some q => p == q
  | none, none =>
    match a, b with
    | .float (.infinite m), .float (.infinite n) => m == n
    | _, _ => false
  | _, _ => false

end Number

namespace Scalar

/-- The number that a scalar counts as, if it is a number or a truth value. -/
def number? : Scalar → Option Number
  | .bool b => some (.int (if b then 1 else 0))
  | .number n => some n
  | _ => none

/-- Whether two scalars are the same. -/
def same (a b : Scalar) : Bool :=
  match a.number?, b.number? with
  | some m, some n => m.same n
  | none, none =>
    match a, b with
    | .null, .null => true
    | .moment m, .moment n => m.same n
    | .text s, .text t => s == t
    | _, _ => false
  | _, _ => false

end Scalar

namespace Value

/-- The value of a text. -/
def ofText (t : Text) : Value := .scalar (.text t)

/-- The value of a fixed word. -/
def ofString (s : String) : Value := ofText s.toList

mutual

/-- Whether two values are the same; lists and tuples are compared part by part. -/
def same : Value → Value → Bool
  | .scalar a, .scalar b => a.same b
  | .list as, .list bs => sameAll as bs
  | .tuple as, .tuple bs => sameAll as bs
  | _, _ => false

/-- Whether two lists of values are the same. -/
def sameAll : List Value → List Value → Bool
  | [], [] => true
  | a :: as, b :: bs => same a b && sameAll as bs
  | _, _ => false

end

end Value

end Criteria
