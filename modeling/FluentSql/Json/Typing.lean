/-
What is found in a JSON value and what its reader wants there, and how a message puts the two side by side.
-/
import FluentSql.Json.Printer
import FluentSql.Text.Quoted

namespace FluentSql.Json

/-! ## Found -/

/-- what was found -/
inductive Found where
  | null
  | bool (b : Bool)
  | int (n : Int)
  | float (x : Binary64)
  | text (s : String)
  | sequence
  | map
deriving DecidableEq, Repr

namespace Found

def ofJson : Json → Found
  | .null => .null
  | .bool b => .bool b
  | .int n => .int n.val
  | .float x => .float x
  | .text s => .text s
  | .array _ => .sequence
  | .object _ => .map

def message : Found → String
  | .null => "null"
  | .bool b => "boolean `" ++ (if b then "true" else "false") ++ "`"
  | .int n => "integer `" ++ n.repr ++ "`"
  | .float x => "floating point `" ++ String.ofList (floatChars x) ++ "`"
  | .text s => "string " ++ Text.quoted s
  | .sequence => "sequence"
  | .map => "map"

end Found

/-! ## Wanted -/

/-- an integer type: signed or not, and its bits -/
structure WordType where
  signed : Bool
  bits : Nat
deriving DecidableEq, Repr

namespace WordType

def int32 : WordType := ⟨true, 32⟩

def int64 : WordType := ⟨true, 64⟩

def uint8 : WordType := ⟨false, 8⟩

def uint16 : WordType := ⟨false, 16⟩

def uint32 : WordType := ⟨false, 32⟩

def uint64 : WordType := ⟨false, 64⟩

def name (w : WordType) : String := (if w.signed then "i" else "u") ++ w.bits.repr

/-- how many values the type has -/
def size (w : WordType) : Nat := Nat.pow 2 w.bits

/-- the least value -/
def lower (w : WordType) : Int := if w.signed then -(w.size / 2 : Nat) else 0

/-- the integer is a value of the type -/
def holds (w : WordType) (n : Int) : Bool := decide (w.lower ≤ n ∧ n < w.lower + w.size)

end WordType

/-- what was wanted -/
inductive Wanted where
  | word (w : WordType)
  | float
  | text
  | boolean
  | sequence
  | map
  /-- a JSON text inside a string -/
  | embedded
  | record (name : String)
deriving DecidableEq, Repr

def Wanted.message : Wanted → String
  | .word w => w.name
  | .float => "f64"
  | .text => "a string"
  | .boolean => "a boolean"
  | .sequence => "a sequence"
  | .map => "a map"
  | .embedded => "raw value"
  | .record name => "struct " ++ name

/-! ## Side by side -/

/-- the found is of another type than the wanted -/
def wrongTypeText (found : Found) (wanted : Wanted) : String :=
  "invalid type: " ++ found.message ++ ", expected " ++ wanted.message

/-- the found is of the wanted type, but none of its values -/
def outOfRangeText (found : Found) (wanted : Wanted) : String :=
  "invalid value: " ++ found.message ++ ", expected " ++ wanted.message

end FluentSql.Json
