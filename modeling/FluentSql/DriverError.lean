/-
What the layer below reports: faults of the connection, of the pool that hands out connections, and of the database.
-/

namespace FluentSql

/-- an error that the database server sends -/
structure ServerError where
  code : Nat
  /-- the five-character code of the SQL standard, if the server gives one -/
  state : Option String
  message : String
deriving DecidableEq, Repr

def ServerError.text (e : ServerError) : String :=
  "error returned from database: " ++ e.code.repr ++
    (match e.state with
      | some state => " (" ++ state ++ ")"
      | none => "") ++ ": " ++ e.message

inductive DriverError where
  | configuration (text : String)
  | server (e : ServerError)
  | io (text : String)
  | tls (text : String)
  | protocol (text : String)
  | rowNotFound
  | typeNotFound (name : String)
  | columnIndexOutOfBounds (index length : Nat)
  | columnNotFound (name : String)
  | columnDecode (index text : String)
  | decode (text : String)
  | anyDriver (text : String)
  | poolTimedOut
  | poolClosed
  | workerCrashed
deriving DecidableEq, Repr

def DriverError.message : DriverError → String
  | .configuration text => "error with configuration: " ++ text
  | .server e => e.text
  | .io text => "error communicating with database: " ++ text
  | .tls text => "error occurred while attempting to establish a TLS connection: " ++ text
  | .protocol text => "encountered unexpected or invalid data: " ++ text
  | .rowNotFound => "no rows returned by a query that expected to return at least one row"
  | .typeNotFound name => "type named " ++ name ++ " not found"
  | .columnIndexOutOfBounds index length =>
    "column index out of bounds: the len is " ++ length.repr ++ ", but the index is " ++ index.repr
  | .columnNotFound name => "no column found for name: " ++ name
  | .columnDecode index text => "error occurred while decoding column " ++ index ++ ": " ++ text
  | .decode text => "error occurred while decoding: " ++ text
  | .anyDriver text => "error in Any driver mapping: " ++ text
  | .poolTimedOut => "pool timed out while waiting for an open connection"
  | .poolClosed => "attempted to acquire a connection on a closed pool"
  | .workerCrashed => "attempted to communicate with a crashed background worker"

end FluentSql
