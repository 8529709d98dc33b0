/-
What an executed statement gives: how many rows it changed, the id that an INSERT generated, and the rows that a SELECT
returned.

Rows are read by a decoder, all of them or the first (`decodeRows`, `decodeFirst`): the first row that does not decode
decides, and no part of the rows before it is returned.
-/
import FluentSql.Error
import FluentSql.Json.Shape

namespace FluentSql

/-- a value for each column, in column order -/
abbrev Row := Members Json

structure ResultSet where
  rowsAffected : UInt64 := 0
  lastInsertId : Option UInt64 := none
  rows : List Row := []
deriving Repr, Inhabited

namespace ResultSet

def isEmpty (rs : ResultSet) : Bool := rs.rows.isEmpty

def idJson : Option UInt64 → Json
  | some id => .int (.ofUInt64 id)
  | none => .null

def toJson (rs : ResultSet) : Json :=
  .object [("rows_affected", .int (.ofUInt64 rs.rowsAffected)), ("last_insert_id", idJson rs.lastInsertId),
    ("rows", .array (rs.rows.map .object))]

/-- equality of values: the order of the rows counts, the order of columns in a row does not -/
def same (a b : ResultSet) : Bool :=
  a.rowsAffected == b.rowsAffected && a.lastInsertId == b.lastInsertId &&
    Json.sameItems (a.rows.map .object) (b.rows.map .object)

/-- the column names of a row -/
def columns? (rs : ResultSet) (index : Nat) : Option (List String) := rs.rows[index]?.map Members.names

/-! ## Reading rows -/

def decodeRows {α ε : Type} (decode : Row → Except ε α) (rs : ResultSet) : Except ε (List α) := rs.rows.mapM decode

def decodeFirst {α ε : Type} (decode : Row → Except ε α) (rs : ResultSet) : Except ε (Option α) :=
  match rs.rows with
  | [] => .ok none
  | row :: _ => (decode row).map some

/-- a row decoder from a reader of JSON values: a row is read as an object, and what is wrong with it is an error of
serialization -/
def ofReader {α : Type} (read : Json → Except Json.Rejection α) (row : Row) : Except Error α :=
  (read (.object row)).mapError .serialization

/-- rows as data of a shape -/
def ofShape (shape : Json.Shape) : Row → Except Error Json := ofReader fun j => (shape j).mapError .mismatch

end ResultSet

end FluentSql
