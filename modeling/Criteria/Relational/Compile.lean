import Criteria.Compilation
import Criteria.Path
import Criteria.Relational.Clause
import Criteria.Value.Reading
import Criteria.Value.Writing

/-!
# Criteria for a relational store

The columns of a relational store are typed, so a criterion compares a column with the value that
its text means. Orders are compared as texts. The relationships on the way to the column are
followed by nested conditions, or left to the caller, who tells which entity owns the column.
-/

namespace Criteria
set_option autoImplicit false

/-- What is asked of the attribute at the end of a path. -/
inductive Question where
  | present (expected : Bool)
  | compare (c : Comparison) (operand : Value)
deriving Repr

namespace Question

/-- The operand that a value text stands for: the value it means, or that value written as a text if
its order is asked for. -/
def operand (s : Separators) (c : Comparison) (value : Option Text) : Except CompileError Value :=
  if c.isOrdering then ((readValue s value).write.map .ofText).mapError .unwritable
  else .ok (readValue s value)

/-- The question about a column. -/
def ofColumn {E : Type} (column : Column E) : Question → Clause E
  | .present expected => .null column expected
  | .compare .eq (.scalar .null) => .null column false
  | .compare .ne (.scalar .null) => .null column true
  | .compare .eq (.scalar (.bool b)) => .truth column false b
  | .compare .ne (.scalar (.bool b)) => .truth column true b
  | .compare c v => .bound column c v

/-- Whether a relationship leads nowhere; `negated` asks the opposite. -/
def vacant {E : Type} (source : E) (r : Relationship E) (negated : Bool) : Clause E :=
  match r.cardinality with
  | .one => .null (Schema.foreignKey source r) negated
  | .many => .occupied source r (!negated)

/-- The question about a relationship, which can only be compared with null. -/
def ofRelationship {E : Type} (source : E) (r : Relationship E) :
    Question → Except CompileError (Clause E)
  | .compare .eq (.scalar .null) => .ok (vacant source r false)
  | .compare .ne (.scalar .null) => .ok (vacant source r true)
  | .compare .eq _ | .compare .ne _ => .error .relationshipValue
  | .compare _ _ | .present _ => .error .relationshipOperand

/-- The question about a constant, which is answered on the spot. Only columns have a presence. -/
def ofConstant {E : Type} (k : Constant) : Question → Except CompileError (Clause E)
  | .present _ => .error .constantPresence
  | .compare c v =>
    match k.compare c v with
    | some holds => .ok (.constant holds)
    | none => .error .incomparable

/-- The question about an attribute. -/
def ofAttribute {E : Type} (q : Question) : Attribute E → Except CompileError (Clause E)
  | .column c => .ok (q.ofColumn c)
  | .relationship source r => q.ofRelationship source r
  | .constant k => q.ofConstant k

end Question

/-- How the entity that owns the last segment of a path is found. -/
inductive Navigation (E : Type) where
  /-- Every relationship on the way becomes a nested condition. -/
  | nested
  /-- The caller names the owner, and has to join its table. -/
  | owner (find : List Text → Except CompileError E)

namespace Schema

variable {E : Type}

/-- The relationship that a segment names. -/
def hop (schema : Schema E) (key : Text) (entity : E) (segment : Text) :
    Except CompileError (Relationship E) :=
  match schema.relationship? entity segment with
  | some r => .ok r
  | none => .error (.notRelationship (schema.name entity) segment key)

/-- The entity at the end of a chain of relationships. -/
def walkFrom (schema : Schema E) (key : Text) (entity : E) : List Text → Except CompileError E
  | [] => .ok entity
  | segment :: segments => do
    let r ← schema.hop key entity segment
    schema.walkFrom key r.target segments

/-- The entity at the end of a chain of relationships from `root`. A fault names the chain. -/
def walk (schema : Schema E) (root : E) (hops : List Text) : Except CompileError E :=
  schema.walkFrom (Path.join hops) root hops

/-- The clause for the attribute of an entity that a segment names. -/
def ask (schema : Schema E) (key : Text) (q : Question) (entity : E) (field : Text) :
    Except CompileError (Clause E) :=
  match schema.attribute? entity field with
  | some a => q.ofAttribute a
  | none => .error (.noAttribute (schema.name entity) field key)

/-- The clause for the attribute at the end of a path, nested once for every relationship. -/
def askNested (schema : Schema E) (key : Text) (q : Question) (entity : E) (field : Text) :
    List Text → Except CompileError (Clause E)
  | [] => schema.ask key q entity field
  | segment :: segments => do
    let r ← schema.hop key entity segment
    return .related r.cardinality.quantifier entity r
      (← schema.askNested key q r.target field segments)

end Schema

namespace Relational

variable {E : Type}

/-- The path of a criterion, which has to end in a field. -/
def requirePath (op : Operator) (c : RawCriterion) : Except CompileError Path :=
  let path := Path.ofKey c.key
  if path.field.isEmpty then .error (.fieldRequired op c.key) else .ok path

/-- The chain of relationships whose end a criterion makes the caller find, if it comes to that. -/
def hops? (c : RawCriterion) : Option (List Text) :=
  match c.op with
  | .known .unknown | .foreign _ => none
  | .known op => (requirePath op c).toOption.map Path.hops

/-- The clause that puts a question to the end of a path. -/
def navigate (schema : Schema E) (root : E) (navigation : Navigation E) (key : Text) (path : Path)
    (q : Question) : Except CompileError (Clause E) :=
  match navigation with
  | .nested => schema.askNested key q root path.field path.hops
  | .owner find => do schema.ask key q (← find path.hops) path.field

/-- The clause for a criterion that asks whether its attribute is there. -/
def presence (schema : Schema E) (root : E) (navigation : Navigation E) (c : RawCriterion) :
    Except CompileError (Clause E) := do
  let path ← requirePath .presence c
  navigate schema root navigation (c.key.getD []) path (.present c.present)

/-- The clause for a criterion that compares its attribute. -/
def comparison (schema : Schema E) (root : E) (s : Separators) (navigation : Navigation E)
    (comparison : Comparison) (c : RawCriterion) : Except CompileError (Clause E) := do
  let path ← requirePath (.compare comparison) c
  let operand ← Question.operand s comparison c.value
  navigate schema root navigation (c.key.getD []) path (.compare comparison operand)

/-- Compiles one criterion about the records of `root`. -/
def compile (schema : Schema E) (root : E) (s : Separators) (navigation : Navigation E)
    (c : RawCriterion) : Outcome (Clause E) :=
  match c.op with
  | .known .unknown => .ok none
  | .known .presence => (presence schema root navigation c).map some
  | .known (.compare op) => (comparison schema root s navigation op c).map some
  | .foreign op => .error (.unsupported .relational op c.key)

end Relational

end Criteria
