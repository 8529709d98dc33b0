/-
Literal values of a statement.

`render` writes a literal as SQL text. Truth values are in lower case in a VALUES list and in upper case behind SET; all
else is written the same in both places. A string stands between double quotes and nothing in it is escaped, so the text
is not safe for strings of unknown origin.

`ofJson` takes JSON scalars to literals of their own and keeps arrays and objects whole. `ToLiteral` collects what else
converts to a literal. Equality of values is `same`: literals of two kinds are never equal.
-/
import FluentSql.Json.Printer
import FluentSql.Text.Hex

namespace FluentSql

inductive Literal where
  | null
  | bool (b : Bool)
  | int32 (n : Int32)
  | int64 (n : Int64)
  | uint64 (n : UInt64)
  | float32 (x : Binary32)
  | float64 (x : Binary64)
  | text (s : String)
  | bytes (bs : List UInt8)
  | json (j : Json)
  /-- a piece of SQL, written as it is -/
  | raw (sql : String)
deriving Repr, Inhabited

namespace Literal

def isNull : Literal → Bool
  | .null => true
  | _ => false

/-! ## Text -/

/-- where a literal is written -/
inductive Place where
  | values
  | set
deriving DecidableEq, Repr

/-- floats are written without exponent and with no more digits than identify them; of two equally close decimals the
larger is taken -/
def floatLayout : Decimal.Layout where
  tie := .up
  isPlain _ := true
  pointZero := false

def floatText : Decimal.Unpacked → String
  | .nan => "NaN"
  | .infinite negative => if negative then "-inf" else "inf"
  | .finite negative x => String.ofList (floatLayout.write negative x)

def boolText : Place → Bool → String
  | .values, b => if b then "true" else "false"
  | .set, b => if b then "TRUE" else "FALSE"

def render (place : Place) : Literal → String
  | .null => "NULL"
  | .bool b => boolText place b
  | .int32 n => n.toInt.repr
  | .int64 n => n.toInt.repr
  | .uint64 n => n.toNat.repr
  | .float32 x => floatText x.unpack
  | .float64 x => floatText x.unpack
  | .text s => "\"" ++ s ++ "\""
  | .bytes bs => "X'" ++ String.ofList (Text.Hex.encode bs) ++ "'"
  | .json j => j.compact
  | .raw sql => sql

/-- the texts of several literals, with a comma and a space between them -/
def renderList (place : Place) (ls : List Literal) : String := ", ".intercalate (ls.map (render place))

/-! ## Equality -/

def same : Literal → Literal → Bool
  | .null, .null => true
  | .bool a, .bool b => a == b
  | .int32 a, .int32 b => a == b
  | .int64 a, .int64 b => a == b
  | .uint64 a, .uint64 b => a == b
  | .float32 a, .float32 b => a.same b
  | .float64 a, .float64 b => a.same b
  | .text a, .text b => a == b
  | .bytes a, .bytes b => a == b
  | .json a, .json b => a.same b
  | .raw a, .raw b => a == b
  | _, _ => false

/-! ## Conversions -/

/-- an integer is signed if it can be -/
def ofInteger (n : WordInt) : Literal :=
  if n.val < 0x8000000000000000 then .int64 (Int64.ofInt n.val) else .uint64 (UInt64.ofNat n.val.toNat)

/-- scalars become literals of their kind, arrays and objects stay JSON -/
def ofJson : Json → Literal
  | .null => .null
  | .bool b => .bool b
  | .int n => ofInteger n
  | .float x => .float64 x
  | .text s => .text s
  | .array items => .json (.array items)
  | .object members => .json (.object members)

end Literal

/-- types whose values convert to a literal -/
class ToLiteral (α : Type) where
  literal : α → Literal

namespace ToLiteral

instance : ToLiteral Literal := ⟨id⟩

instance : ToLiteral Unit := ⟨fun _ => .null⟩

instance : ToLiteral Bool := ⟨.bool⟩

instance : ToLiteral Int32 := ⟨.int32⟩

instance : ToLiteral Int64 := ⟨.int64⟩

/-- the unsigned half word fits the signed word -/
instance : ToLiteral UInt32 := ⟨fun n => .int64 (Int64.ofNat n.toNat)⟩

instance : ToLiteral UInt64 := ⟨.uint64⟩

instance : ToLiteral Binary32 := ⟨.float32⟩

instance : ToLiteral Binary64 := ⟨.float64⟩

instance : ToLiteral String := ⟨.text⟩

instance : ToLiteral (List UInt8) := ⟨.bytes⟩

instance : ToLiteral Json := ⟨Literal.ofJson⟩

/-- what is not there is null -/
instance {α : Type} [ToLiteral α] : ToLiteral (Option α) := ⟨fun x => (x.map literal).getD .null⟩

end ToLiteral

end FluentSql
