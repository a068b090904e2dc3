import Criteria.Criterion.Basic

/-!
# Relational schemas

A schema tells for each entity what a path may name there: its columns, its relationships to other
entities, and its constants, which the mapping knows nothing of. A layout puts the entities into
tables. A relationship joins two of them: a foreign key on one side refers to the identity column of
the other.
-/

namespace Criteria
set_option autoImplicit false

/-- How many records a relationship leads to. -/
inductive Cardinality where
  | one
  | many
deriving DecidableEq, Repr

/-- A relationship of an entity. -/
structure Relationship (E : Type) where
  name : String
  target : E
  cardinality : Cardinality
  /-- A column of the entity itself if there is one target record, and of the target if there are
  many. -/
  foreignKey : String
deriving DecidableEq, Repr

/-- An attribute of an entity that is no part of the mapping, such as the name of its table. It is
the same for all records, and is compared while a criterion is compiled. -/
structure Constant where
  name : String
  /-- Whether the comparison with the value holds, unless the two cannot be compared. -/
  compare : Comparison → Value → Option Bool

namespace Constant

/-- A constant that is a text. Texts have an order among themselves only. -/
def ofString (name content : String) : Constant where
  name := name
  compare
    | .eq, v => some ((Value.ofString content).same v)
    | .ne, v => some (!(Value.ofString content).same v)
    | .gt, .scalar (.text t) => some (t < content.toList)
    | .ge, .scalar (.text t) => some (¬ content.toList < t)
    | .lt, .scalar (.text t) => some (content.toList < t)
    | .le, .scalar (.text t) => some (¬ t < content.toList)
    | _, _ => none

/-- A constant that equals no value and has no order. -/
def object (name : String) : Constant where
  name := name
  compare
    | .eq, _ => some false
    | .ne, _ => some true
    | _, _ => none

end Constant

/-- What a path may name at each of the entities `E`. -/
structure Schema (E : Type) where
  /-- The name under which faults report the entity. -/
  name : E → String
  columns : E → List String
  relationships : E → List (Relationship E)
  constants : E → List Constant

/-- The tables of the entities. -/
structure Schema.Layout {E : Type} (schema : Schema E) where
  table : E → String
  /-- The column that foreign keys refer to. -/
  identity : E → String
  /-- No relationship leads back to its own table, which would need a second name there. -/
  apart : ∀ e, ∀ r ∈ schema.relationships e, table r.target ≠ table e

/-- A column of the table of an entity. -/
structure Column (E : Type) where
  entity : E
  name : String
deriving DecidableEq, Repr

/-- What the last segment of a path may name. -/
inductive Attribute (E : Type) where
  | column (c : Column E)
  | relationship (source : E) (r : Relationship E)
  | constant (k : Constant)

namespace Schema

variable {E : Type}

/-- The relationship of an entity that a segment names. -/
def relationship? (schema : Schema E) (entity : E) (segment : Text) : Option (Relationship E) :=
  (schema.relationships entity).find? fun r => r.name.toList == segment

/-- The column of an entity that a segment names. -/
def column? (schema : Schema E) (entity : E) (segment : Text) : Option (Column E) :=
  ((schema.columns entity).find? fun name => name.toList == segment).map (⟨entity, ·⟩)

/-- The constant of an entity that a segment names. -/
def constant? (schema : Schema E) (entity : E) (segment : Text) : Option Constant :=
  (schema.constants entity).find? fun k => k.name.toList == segment

/-- The column, relationship or constant of an entity that a segment names. -/
def attribute? (schema : Schema E) (entity : E) (segment : Text) : Option (Attribute E) :=
  match schema.column? entity segment, schema.relationship? entity segment with
  | some c, _ => some (.column c)
  | none, some r => some (.relationship entity r)
  | none, none => (schema.constant? entity segment).map .constant

/-- The foreign key of a relationship of `source`. -/
def foreignKey (source : E) (r : Relationship E) : Column E :=
  match r.cardinality with
  | .one => ⟨source, r.foreignKey⟩
  | .many => ⟨r.target, r.foreignKey⟩

/-- The identity column that the foreign key refers to. -/
def Layout.referenced {schema : Schema E} (layout : schema.Layout) (source : E)
    (r : Relationship E) : Column E :=
  match r.cardinality with
  | .one => ⟨r.target, layout.identity r.target⟩
  | .many => ⟨source, layout.identity source⟩

end Schema

end Criteria
