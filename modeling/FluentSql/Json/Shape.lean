/-
Shapes of JSON values. A shape takes a value that has it and gives it back in the form in which data of that shape are
written; otherwise it says what does not fit.

The members of a record are visited in the order of the value, so the first that does not fit is reported; what is
missing is reported afterwards, in the order of the record.
-/
import FluentSql.Json.Mismatch

namespace FluentSql.Json

abbrev Shape := Json → Except Mismatch Json

namespace Shape

/-! ## Any value -/

mutual

/-- any value, with the embedded texts in it read -/
def any : Json → Except Mismatch Json
  | .array items => (anyItems items).map .array
  | .object [] => .ok (.object [])
  | .object ((name, v) :: rest) =>
    if name = embeddedName then
      match v with
      | .text inner => do
        let j ← (parse inner).mapError .malformed
        if rest.isEmpty then return j else .error (.notAlone (rest.length + 1))
      | v => wrongType v .embedded
    else do
      let v ← any v
      let rest ← anyMembers rest
      return .object ((name, v) :: rest)
  | j => .ok j

def anyItems : List Json → Except Mismatch (List Json)
  | [] => .ok []
  | x :: xs => do
    let x ← any x
    let xs ← anyItems xs
    return x :: xs

def anyMembers : List (String × Json) → Except Mismatch (List (String × Json))
  | [] => .ok []
  | (name, v) :: ms => do
    let v ← any v
    let ms ← anyMembers ms
    return (name, v) :: ms

end

/-! ## Scalars -/

def boolean : Shape
  | .bool b => .ok (.bool b)
  | j => wrongType j .boolean

def text : Shape := fun j => (readText j).map .text

def word (w : WordType) : Shape := fun j => (readWord w j).map .int

/-- a float, or an integer as the nearest float -/
def float : Shape
  | .int n => .ok (.float (Binary64.ofInt n.val))
  | .float x => .ok (.float x)
  | j => wrongType j .float

/-! ## Containers -/

/-- null, or the shape -/
def optional (s : Shape) : Shape
  | .null => .ok .null
  | j => s j

def sequence (s : Shape) : Shape
  | .array items => (items.mapM s).map .array
  | j => wrongType j .sequence

/-- an object whose members have the shape, written with ascending names -/
def sortedMap (s : Shape) : Shape
  | .object members =>
    (members.mapM fun m => (s m.2).map (Prod.mk m.1)).map fun ms => .object (Members.sortedOfPairs ms)
  | j => wrongType j .map

/-! ## Records -/

structure Field where
  name : String
  shape : Shape
  /-- what stands in for a missing member, `none` if it must be there -/
  default : Option Json

/-- the members that are fields, each in its shape; the others are passed over -/
def readMembers (fields : List Field) : Members Json → Except Mismatch (Members Json)
  | [] => .ok []
  | (name, v) :: rest =>
    match fields.find? (·.name == name) with
    | none => readMembers fields rest
    | some f => do
      let v ← f.shape v
      let rest ← readMembers fields rest
      return (name, v) :: rest

/-- the fields in their order, from what was read or by default -/
def complete (read : Members Json) : List Field → Except Mismatch (Members Json)
  | [] => .ok []
  | f :: fields =>
    match (Members.lookup? f.name read).or f.default with
    | none => .error (.missing f.name)
    | some v => (complete read fields).map ((f.name, v) :: ·)

/-- an object with the fields; other members are ignored -/
def record (name : String) (fields : List Field) : Shape
  | .object members => do
    let read ← readMembers fields members
    let all ← complete read fields
    return .object all
  | j => wrongType j (.record name)

end Shape

end FluentSql.Json
