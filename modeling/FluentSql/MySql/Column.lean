/-
Columns of a server's reply. A column has a type, a character set and flags; its name in a row is the alias of the query
unless there is none or it is empty.
-/

namespace FluentSql.MySql

inductive ColumnType where
  | decimal
  | tiny
  | short
  | long
  | float
  | double
  | null
  | timestamp
  | longLong
  | int24
  | date
  | time
  | datetime
  | year
  | newDate
  | varchar
  | bit
  | json
  | newDecimal
  | enum
  | set
  | tinyBlob
  | mediumBlob
  | longBlob
  | blob
  | varString
  | string
  | geometry
deriving DecidableEq, Repr

namespace ColumnType

/-- integers of every width -/
def isInteger : ColumnType → Bool
  | .tiny | .short | .long | .int24 | .longLong => true
  | _ => false

/-- texts and byte strings, which differ in the character set alone -/
def isString : ColumnType → Bool
  | .varchar | .varString | .string | .enum | .blob | .tinyBlob | .mediumBlob | .longBlob => true
  | _ => false

/-- types with a date, whose values of no bytes are no dates -/
def isDated : ColumnType → Bool
  | .date | .timestamp | .datetime => true
  | _ => false

/-- types by the name that a column definition gives -/
def ofName? : String → Option ColumnType
  | "DECIMAL" => some .decimal
  | "TINY" => some .tiny
  | "SHORT" => some .short
  | "LONG" => some .long
  | "FLOAT" => some .float
  | "DOUBLE" => some .double
  | "NULL" => some .null
  | "TIMESTAMP" => some .timestamp
  | "LONGLONG" => some .longLong
  | "INT24" => some .int24
  | "DATE" => some .date
  | "TIME" => some .time
  | "DATETIME" => some .datetime
  | "YEAR" => some .year
  | "NEWDATE" => some .newDate
  | "VARCHAR" => some .varchar
  | "BIT" => some .bit
  | "JSON" => some .json
  | "NEWDECIMAL" => some .newDecimal
  | "ENUM" => some .enum
  | "SET" => some .set
  | "TINYBLOB" => some .tinyBlob
  | "MEDIUMBLOB" => some .mediumBlob
  | "LONGBLOB" => some .longBlob
  | "BLOB" => some .blob
  | "VARSTRING" => some .varString
  | "STRING" => some .string
  | "GEOMETRY" => some .geometry
  | _ => none

end ColumnType

structure Column where
  name : String
  /-- the alias that the query gives -/
  label : Option String := none
  type : ColumnType
  /-- number of the character set; 63 is none, for bytes -/
  charset : Nat := 63
  flags : Nat := 0
deriving DecidableEq, Repr

namespace Column

def key (c : Column) : String :=
  match c.label with
  | some a => if a = "" then c.name else a
  | none => c.name

/-- flag 32 -/
def isUnsigned (c : Column) : Bool := c.flags.testBit 5

/-- character sets whose bytes are UTF-8 text -/
def isText (c : Column) : Bool := c.type.isString && [33, 45, 46, 192, 224, 255].contains c.charset

end Column

/-- the bytes of a value as they were sent, `none` for NULL -/
abbrev Cell := Option (List UInt8)

end FluentSql.MySql
