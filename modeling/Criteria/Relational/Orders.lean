import Criteria.Relational.Schema

/-!
# The order book

A small schema: orders with a customer and some lines, and customers with an address.
-/

namespace Criteria
set_option autoImplicit false

/-- The entities of the order book. -/
inductive OrderBook where
  | order
  | customer
  | address
  | orderLine
deriving DecidableEq, Repr

namespace OrderBook

/-- All entities. -/
def all : List OrderBook := [order, customer, address, orderLine]

/-- The name of an entity. -/
def name : OrderBook → String
  | order => "Order"
  | customer => "Customer"
  | address => "Address"
  | orderLine => "OrderLine"

/-- The entity with the given name. -/
def ofName? (name : String) : Option OrderBook := all.find? (·.name == name)

/-- The table of an entity. -/
def table : OrderBook → String
  | order => "orders"
  | customer => "customers"
  | address => "addresses"
  | orderLine => "order_lines"

/-- The columns of an entity. -/
def columns : OrderBook → List String
  | order => ["id", "status", "total", "note", "created_at", "customer_id"]
  | customer => ["id", "name", "address_id"]
  | address => ["id", "city"]
  | orderLine => ["id", "order_id", "sku"]

/-- The relationships of an entity. -/
def relationships : OrderBook → List (Relationship OrderBook)
  | order => [⟨"customer", customer, .one, "customer_id"⟩, ⟨"lines", orderLine, .many, "order_id"⟩]
  | customer => [⟨"address", address, .one, "address_id"⟩]
  | address | orderLine => []

/-- The constants of an entity: what it is called, and what it is made of. -/
def constants (e : OrderBook) : List Constant :=
  [.ofString "__name__" (name e), .ofString "__qualname__" (name e),
    .ofString "__tablename__" (table e), .object "__table__", .object "__mapper__",
    .object "metadata", .object "registry"]

/-- The schema of the order book, whatever constants its entities have. -/
def schemaWith (constants : OrderBook → List Constant) : Schema OrderBook where
  name := name
  columns := columns
  relationships := relationships
  constants := constants

/-- The schema of the order book. -/
def schema : Schema OrderBook := schemaWith constants

theorem table_target_ne (e : OrderBook) : ∀ r ∈ relationships e, table r.target ≠ table e := by
  cases e <;> decide

/-- The tables of the order book, whatever constants its entities have. -/
def layoutWith (constants : OrderBook → List Constant) : (schemaWith constants).Layout where
  table := table
  identity := fun _ => "id"
  apart := table_target_ne

/-- The tables of the order book. -/
def layout : schema.Layout := layoutWith constants

end OrderBook

end Criteria
