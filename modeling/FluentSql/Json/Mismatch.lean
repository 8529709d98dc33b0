/-
Why a JSON value is not what its reader wants: the wrong type, a number out of range, a member missing or given twice, a
list of the wrong length, an embedded text that is no JSON. `Rejection` adds the texts that are no JSON at all.
-/
import FluentSql.Json.Parser
import FluentSql.Json.Typing

namespace FluentSql.Json

/-! ## Mismatches -/

inductive Mismatch where
  | wrongType (found : Found) (wanted : Wanted)
  | outOfRange (found : Found) (wanted : Wanted)
  | missing (name : String)
  | duplicate (name : String)
  /-- a list ends before the item of this index, of so many that a record takes -/
  | tooShort (index : Nat) (wanted : Wanted) (size : Nat)
  /-- a list has more items than a record takes -/
  | tooLong (length : Nat)
  /-- an embedded text spells no value -/
  | malformed (fault : SourceFault)
  /-- an object has members beside its embedded text -/
  | notAlone (length : Nat)
deriving DecidableEq, Repr

def Mismatch.message : Mismatch → String
  | .wrongType found wanted => wrongTypeText found wanted
  | .outOfRange found wanted => outOfRangeText found wanted
  | .missing name => "missing field `" ++ name ++ "`"
  | .duplicate name => "duplicate field `" ++ name ++ "`"
  | .tooShort index wanted size =>
    "invalid length " ++ index.repr ++ ", expected " ++ wanted.message ++ " with " ++ size.repr ++ " elements"
  | .tooLong length => "invalid length " ++ length.repr ++ ", expected fewer elements in array"
  | .malformed fault => fault.message
  | .notAlone length => "invalid length " ++ length.repr ++ ", expected fewer elements in map"

/-- why a text was not read as what it should hold -/
inductive Rejection where
  | malformed (fault : SourceFault)
  | mismatch (m : Mismatch)
deriving DecidableEq, Repr

def Rejection.message : Rejection → String
  | .malformed fault => fault.message
  | .mismatch m => m.message

/-! ## Scalars -/

def wrongType {α : Type} (j : Json) (wanted : Wanted) : Except Mismatch α := .error (.wrongType (.ofJson j) wanted)

def readText : Json → Except Mismatch String
  | .text s => .ok s
  | j => wrongType j .text

/-- an integer of the type: a float is none, not even a whole one -/
def readWord (w : WordType) : Json → Except Mismatch WordInt
  | .int n => if w.holds n.val then .ok n else .error (.outOfRange (.int n.val) (.word w))
  | j => wrongType j (.word w)

end FluentSql.Json
