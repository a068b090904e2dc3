import Criteria.Compilation
import Criteria.Relational.Clause

/-!
# Statements

A clause is written as SQL with a placeholder for every bound value. It is first written in
fragments, and then the placeholders are numbered from left to right, separately for each column
name. Constants are worked out of a conjunction before it is written.
-/

namespace Criteria
set_option autoImplicit false

/-- A piece of a statement. -/
inductive Fragment where
  | sql (text : String)
  /-- A placeholder, to be named after the column. -/
  | placeholder (column : String) (value : Value)
deriving Repr

/-- A text with named placeholders, and their values in the order of the text. -/
structure Statement where
  text : String
  parameters : List (String × Value)
deriving Repr

namespace Statement

/-- The name of a placeholder for the column, when those of `earlier` come before it. -/
def placeholderName (earlier : List String) (column : String) : String :=
  column ++ "_" ++ toString (earlier.count column + 1)

/-- The statement of some fragments that stand behind placeholders of the columns in `earlier`. -/
def assemble (earlier : List String) : List Fragment → Statement
  | [] => ⟨"", []⟩
  | .sql text :: rest =>
    let after := assemble earlier rest
    ⟨text ++ after.text, after.parameters⟩
  | .placeholder column value :: rest =>
    let name := placeholderName earlier column
    let after := assemble (column :: earlier) rest
    ⟨":" ++ name ++ after.text, (name, value) :: after.parameters⟩

/-- The statement of some fragments. -/
def ofFragments (fragments : List Fragment) : Statement := assemble [] fragments

end Statement

/-- The sign for a comparison. -/
def Comparison.sqlSign : Comparison → String
  | .eq => "="
  | .ne => "!="
  | .gt => ">"
  | .ge => ">="
  | .lt => "<"
  | .le => "<="

/-- A truth value in a statement. -/
def truthText (b : Bool) : String := if b then "true" else "false"

namespace Schema.Layout

variable {E : Type} {schema : Schema E}

/-- A column with its table. -/
def columnText (layout : schema.Layout) (c : Column E) : String :=
  layout.table c.entity ++ "." ++ c.name

/-- The condition that joins the tables of a relationship. -/
def joinText (layout : schema.Layout) (source : E) (r : Relationship E) : String :=
  layout.columnText (layout.referenced source r) ++ " = " ++
    layout.columnText (foreignKey source r)

/-- The start of a query for related records. A query inside another one sees the table of `source`
there and does not list it again. -/
def selectText (layout : schema.Layout) (nested : Bool) (source : E) (r : Relationship E) :
    String :=
  let outerTable := if nested then "" else ", " ++ layout.table source
  "SELECT 1 \nFROM " ++ layout.table r.target ++ outerTable ++ " \nWHERE " ++
    layout.joinText source r

end Schema.Layout

namespace Clause

variable {E : Type} {schema : Schema E}

/-- Whether the clause is a query for related records, not negated. -/
def isQuery : Clause E → Bool
  | .related .. => true
  | .occupied _ _ negated => !negated
  | .null .. | .truth .. | .bound .. | .constant _ => false

/-- Puts the fragments of a clause between parentheses if it is a query. -/
def enclose (clause : Clause E) (fragments : List Fragment) : List Fragment :=
  if clause.isQuery then .sql "(" :: (fragments ++ [.sql ")"]) else fragments

/-- The fragments of a clause; `nested` tells whether it stands inside a query. The one related
record and some related record are asked for by the same query. -/
def fragments (layout : schema.Layout) (nested : Bool) : Clause E → List Fragment
  | .null column negated =>
    [.sql (layout.columnText column ++ if negated then " IS NOT NULL" else " IS NULL")]
  | .truth column negated value =>
    [.sql (layout.columnText column ++ (if negated then " != " else " = ") ++ truthText value)]
  | .bound column comparison value =>
    [.sql (layout.columnText column ++ " " ++ comparison.sqlSign ++ " "),
      .placeholder column.name value]
  | .related _ source hop condition =>
    .sql ("EXISTS (" ++ layout.selectText nested source hop ++ " AND ") ::
      (condition.enclose (condition.fragments layout true) ++ [.sql ")"])
  | .occupied source hop negated =>
    let query := "EXISTS (" ++ layout.selectText nested source hop ++ ")"
    [.sql (if negated then "NOT (" ++ query ++ ")" else query)]
  | .constant value => [.sql (truthText value)]

end Clause

namespace Conjunction

variable {E : Type} {schema : Schema E}

/-- The clauses that make up the statement of several ones. A false constant stands for all of them,
and the true ones are left out, unless nothing else is left. -/
def essential (clauses : List (Clause E)) : List (Clause E) :=
  if clauses.any (·.constant? == some false) then [.constant false]
  else
    match clauses.filter (·.constant? != some true) with
    | [] => [.constant true]
    | rest => rest

/-- The fragments of some clauses, with `AND` between them; a single one stands for itself. -/
def joined (layout : schema.Layout) : List (Clause E) → List Fragment
  | [clause] => clause.fragments layout false
  | clauses => List.intercalate [.sql " AND "]
      (clauses.map fun clause => clause.enclose (clause.fragments layout false))

/-- The fragments of a conjunction; there are none if nothing is conjoined. A single constant is not
put into the words of a statement. -/
def fragments (layout : schema.Layout) : Conjunction (Clause E) → List Fragment
  | .empty => []
  | .single (.constant value) => [.sql (Scalar.bool value).display]
  | .single clause => clause.fragments layout false
  | .all clauses => joined layout (essential clauses)

/-- The statement of a conjunction, unless nothing is conjoined. -/
def statement? (layout : schema.Layout) (clauses : Conjunction (Clause E)) : Option Statement :=
  match clauses with
  | .empty => none
  | .single _ | .all _ => some (.ofFragments (clauses.fragments layout))

/-- The conjunction in a message. -/
def statementDisplay (layout : schema.Layout) (clauses : Conjunction (Clause E)) : String :=
  match clauses.statement? layout with
  | some statement => statement.text
  | none => Scalar.null.display

end Conjunction

end Criteria
