/-
JSON values. A number is an integer of the 64-bit words, signed or not, or a floating-point number: the two are never
equal. The members of an object keep their order, and equality of values (`same`) does not look at it.
-/
import FluentSql.Decimal.Rounding
import FluentSql.Members

namespace FluentSql

/-! ## Integers -/

/-- an integer that fits a signed or an unsigned word of 64 bits -/
structure WordInt where
  val : Int
  lower : -0x8000000000000000 ≤ val := by omega
  upper : val < 0x10000000000000000 := by omega
deriving DecidableEq, Repr

namespace WordInt

def ofInt? (n : Int) : Option WordInt :=
  if h : -0x8000000000000000 ≤ n ∧ n < 0x10000000000000000 then some ⟨n, h.1, h.2⟩ else none

def ofInt64 (n : Int64) : WordInt := ⟨n.toInt, Int64.le_toInt n, by have := Int64.toInt_lt n; omega⟩

def ofUInt64 (n : UInt64) : WordInt :=
  ⟨n.toNat, by omega, by have := UInt64.toNat_lt n; omega⟩

def ofUInt8 (n : UInt8) : WordInt := ⟨n.toNat, by omega, by have := UInt8.toNat_lt n; omega⟩

end WordInt

/-! ## Values -/

inductive Json where
  | null
  | bool (b : Bool)
  | int (n : WordInt)
  | float (x : Binary64)
  | text (s : String)
  | array (items : List Json)
  | object (members : List (String × Json))
deriving Repr, Inhabited

namespace Json

/-- a floating-point number, null if it is not finite -/
def ofBinary64 (x : Binary64) : Json := if x.unpack.isFinite then .float x else .null

/-- and one of half the width, the number of which is kept -/
def ofBinary32 (x : Binary32) : Json :=
  match x.unpack with
  | .finite negative m =>
    let (num, den) := Decimal.scaled m.m 1 (-m.q)
    .float (.ofRatio negative num den)
  | _ => .null

/-! ## Equality -/

mutual

/-- equality of values: floats as numbers, objects as maps -/
def same : Json → Json → Bool
  | .null, .null => true
  | .bool a, .bool b => a == b
  | .int a, .int b => a.val == b.val
  | .float a, .float b => a.same b
  | .text a, .text b => a == b
  | .array xs, .array ys => sameItems xs ys
  | .object ms, .object ns => ms.length == ns.length && sameMembers ms ns
  | _, _ => false

/-- item by item -/
def sameItems : List Json → List Json → Bool
  | [], [] => true
  | x :: xs, y :: ys => same x y && sameItems xs ys
  | _, _ => false

/-- every member has its like in the second list -/
def sameMembers : List (String × Json) → List (String × Json) → Bool
  | [], _ => true
  | (name, v) :: ms, ns =>
    (match Members.lookup? name ns with
      | some w => same v w
      | none => false) && sameMembers ms ns

end

end Json

end FluentSql
