import Criteria.Criterion.Basic
import Criteria.Relational.Schema

/-!
# Clauses

A clause is a condition on a record of an entity. It tests a column, or asks for a related record
with a condition of its own, so that no table has to be joined outside. What is known of a constant
is a condition that holds for all records or for none.
-/

namespace Criteria
set_option autoImplicit false

/-- How a condition is put to related records. -/
inductive Quantifier where
  /-- To the one related record. -/
  | has
  /-- To some one of the related records. -/
  | any
deriving DecidableEq, Repr

/-- The quantifier for a relationship that leads to one record, or to many. -/
def Cardinality.quantifier : Cardinality → Quantifier
  | .one => .has
  | .many => .any

/-- A condition on a record. -/
inductive Clause (E : Type) where
  /-- Whether the column is null; `negated` asks the opposite. -/
  | null (column : Column E) (negated : Bool)
  /-- Whether the column equals a truth value; `negated` asks the opposite. -/
  | truth (column : Column E) (negated : Bool) (value : Bool)
  /-- A comparison of the column with a bound value. -/
  | bound (column : Column E) (comparison : Comparison) (value : Value)
  /-- Whether the related record, or some related record, satisfies the condition. -/
  | related (quantifier : Quantifier) (source : E) (hop : Relationship E) (condition : Clause E)
  /-- Whether there is any related record; `negated` asks the opposite. -/
  | occupied (source : E) (hop : Relationship E) (negated : Bool)
  /-- A condition that is settled without looking at the record. -/
  | constant (value : Bool)
deriving Repr

/-- The truth value of a clause that is settled without looking at the record. -/
def Clause.constant? {E : Type} : Clause E → Option Bool
  | .constant value => some value
  | _ => none

end Criteria
