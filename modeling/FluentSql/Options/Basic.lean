/-
Settings for opening a connection. Four of them have to be given, the others have defaults and setters. The text that a
developer is shown (`inspect`, on one line or on many) holds the password masked.
-/
import FluentSql.Text.Masked
import FluentSql.Text.Quoted

namespace FluentSql

structure Options where
  host : String
  port : UInt16 := 3306
  user : String
  password : String := ""
  database : String
  /-- the size of the pool -/
  maxConnections : UInt32 := 1
  /-- seconds to wait for a connection -/
  connectTimeout : UInt64 := 30
deriving DecidableEq, Repr

/-- what a setter changes -/
inductive Setting where
  | port (n : UInt16)
  | maxConnections (n : UInt32)
  | connectTimeout (seconds : UInt64)
deriving DecidableEq, Repr

namespace Options

def ofLogin (host user password database : String) : Options where
  host := host
  user := user
  password := password
  database := database

def set (o : Options) : Setting → Options
  | .port n => { o with port := n }
  | .maxConnections n => { o with maxConnections := n }
  | .connectTimeout seconds => { o with connectTimeout := seconds }

/-- the settings in turn: of those for one field the last counts -/
def setAll (o : Options) (settings : List Setting) : Options := settings.foldl set o

/-! ## Inspection -/

def typeName : String := "ConnectOptions"

/-- fields and their texts, in order -/
def shownFields (o : Options) : List (String × String) :=
  [("host", Text.quoted o.host), ("port", o.port.toNat.repr), ("user", Text.quoted o.user),
    ("password", Text.quoted (Text.masked o.password)), ("database", Text.quoted o.database),
    ("max_connections", o.maxConnections.toNat.repr), ("connect_timeout_secs", o.connectTimeout.toNat.repr)]

def inspect (o : Options) : String :=
  typeName ++ " \x7b " ++ ", ".intercalate (o.shownFields.map fun f => f.1 ++ ": " ++ f.2) ++ " \x7d"

/-- one field a line -/
def inspectLines (o : Options) : String :=
  typeName ++ " \x7b\n" ++ String.join (o.shownFields.map fun f => "    " ++ f.1 ++ ": " ++ f.2 ++ ",\n") ++ "\x7d"

end Options

end FluentSql
