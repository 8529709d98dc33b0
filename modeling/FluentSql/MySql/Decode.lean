/-
Cells as JSON values.

A cell is offered to one reading after the other: signed integer, unsigned integer, float, single float, text, JSON
document, date and time, date, time, bytes. A reading that does not apply to the type of the column, or that does not
accept the bytes, passes; the first that accepts decides. What none accepts is read as text, whatever its type, and
fails if it is not UTF-8. The reading of floats takes FLOAT cells too, and breaks down as it takes their four bytes for
eight; that of single floats, which stands behind it, is never reached (`Reading.single_unreached`).
-/
import FluentSql.Json.Parser
import FluentSql.Members
import FluentSql.MySql.Column
import FluentSql.MySql.Temporal
import FluentSql.Text.Utf8

namespace FluentSql.MySql

/-! ## Readings -/

/-- what comes of a cell -/
inductive Decoded where
  | value (j : Json)
  | notText (fault : Text.Utf8.Fault)
  | crash
deriving Repr, Inhabited

/-- a reading of the bytes in a column, `none` if it passes -/
abbrev Reading := Column → List UInt8 → Option Decoded

namespace Reading

/-- an integer in two's complement, low byte first -/
def signed : Reading := fun c bytes =>
  if c.type.isInteger && !c.isUnsigned then
    (WordInt.ofInt? ((littleEndian bytes : Int).bmod (Nat.pow 256 bytes.length))).map fun n => .value (.int n)
  else none

/-- an integer without sign, low byte first; of bits the high byte is first and the low 64 bits count -/
def unsigned : Reading := fun c bytes =>
  if !c.isUnsigned then none
  else if c.type = .bit then
    (WordInt.ofInt? (littleEndian bytes.reverse % 0x10000000000000000)).map fun n => .value (.int n)
  else if c.type.isInteger || c.type = .year then
    (WordInt.ofInt? (littleEndian bytes)).map fun n => .value (.int n)
  else none

/-- a float of eight bytes; the column may be of single floats, and there are no eight bytes in its cells -/
def double : Reading := fun c bytes =>
  if c.type = .float then some .crash
  else if c.type = .double && bytes.length = 8 then
    some (.value (.ofBinary64 ⟨UInt64.ofNat (littleEndian bytes)⟩))
  else none

/-- a float of four bytes, as the same number in eight -/
def single : Reading := fun c bytes =>
  if c.type = .float && bytes.length = 4 then
    some (.value (.ofBinary32 ⟨UInt32.ofNat (littleEndian bytes)⟩))
  else none

def text : Reading := fun c bytes =>
  if c.isText then (Text.Utf8.decode bytes).toOption.map fun s => .value (.text s) else none

/-- a JSON document; byte strings are tried too, whatever their character set -/
def document : Reading := fun c bytes =>
  if c.type = .json || c.type.isString then do
    let s ← (Text.Utf8.decode bytes).toOption
    let j ← (Json.parse s).toOption
    return .value j
  else none

def datetime : Reading := fun c bytes =>
  if c.type = .datetime then (datetimeCell? bytes).map fun s => .value (.text s) else none

def date : Reading := fun c bytes =>
  if c.type = .date then (dateCell? bytes).map fun s => .value (.text s) else none

def time : Reading := fun c bytes =>
  if c.type = .time then (timeCell? bytes).map fun s => .value (.text s) else none

/-- the bytes as numbers -/
def bytes : Reading := fun c bytes =>
  if c.type.isString then some (.value (.array (bytes.map fun b => .int (.ofUInt8 b)))) else none

/-- the order in which they are tried -/
def all : List Reading := [signed, unsigned, double, single, text, document, datetime, date, time, bytes]

/-- `double`, which is tried before, passes no column of single floats on -/
theorem single_unreached {c : Column} {bytes : List UInt8} (h : double c bytes = none) : single c bytes = none := by
  by_cases hf : c.type = .float
  · rw [double, if_pos hf] at h
    cases h
  · simp [single, hf]

end Reading

/-- the last resort -/
def plainText (bytes : List UInt8) : Decoded :=
  match Text.Utf8.decode bytes with
  | .ok s => .value (.text s)
  | .error fault => .notText fault

/-! ## Cells -/

def decodeCell (c : Column) : Cell → Decoded
  | none => .value .null
  | some bytes =>
    if c.type.isDated && bytes.head? == some 0 then .value .null
    else (Reading.all.findSome? fun r => r c bytes).getD (plainText bytes)

/-! ## Rows -/

/-- why a row has no value -/
inductive RowFault where
  /-- number of the column and what is wrong with its bytes -/
  | column (index : Nat) (fault : Text.Utf8.Fault)
  | crash
deriving DecidableEq, Repr

/-- the cells from column number `index` on, put into the row; of columns with one name the first gives the place and
the last the value -/
def decodeCells (index : Nat) (row : Members Json) : List (Column × Cell) → Except RowFault (Members Json)
  | [] => .ok row
  | (c, cell) :: rest =>
    match decodeCell c cell with
    | .value j => decodeCells (index + 1) (row.put c.key j) rest
    | .notText fault => .error (.column index fault)
    | .crash => .error .crash

def decodeRow (columns : List Column) (cells : List Cell) : Except RowFault (Members Json) :=
  decodeCells 0 [] (columns.zip cells)

end FluentSql.MySql
