/-
The errors that callers see: opening a connection, running a statement, or reading the rows failed.

A connection error names host, user and database and shows of the password only how many characters it has: the password
is masked when the error is made, so no error ever holds it.
-/
import FluentSql.DriverError
import FluentSql.Json.Mismatch
import FluentSql.Text.Masked

namespace FluentSql

structure ConnectionFailure where
  host : String
  user : String
  maskedPassword : String
  database : String
  cause : DriverError
deriving DecidableEq, Repr

inductive Error where
  | connection (failure : ConnectionFailure)
  | execution (cause : DriverError)
  | serialization (cause : Json.Rejection)
deriving DecidableEq, Repr

namespace ConnectionFailure

/-- the failure of an attempt, with the password masked -/
def ofAttempt (host user password database : String) (cause : DriverError) : ConnectionFailure :=
  ⟨host, user, Text.masked password, database, cause⟩

def message (f : ConnectionFailure) : String :=
  "An error occurred while connecting to the MySQL database \"" ++ f.database ++ "\" with user \"" ++ f.user ++
    "\" and password \"" ++ f.maskedPassword ++ "\" on host \"" ++ f.host ++ "\":\n" ++ f.cause.message

end ConnectionFailure

namespace Error

/-- what lies behind the error -/
def causeMessage : Error → String
  | .connection failure => failure.cause.message
  | .execution cause => cause.message
  | .serialization cause => cause.message

def message : Error → String
  | .connection failure => failure.message
  | .execution cause => "Execution error: " ++ cause.message
  | .serialization cause => "Serialization error: " ++ cause.message

def isConnection : Error → Bool
  | .connection _ => true
  | _ => false

end Error

end FluentSql
