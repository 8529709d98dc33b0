/-
The events that running statements and opening connections leave in a log. No event holds a password.
-/
import FluentSql.DriverError
import FluentSql.Statement.Basic

namespace FluentSql

inductive Level where
  | debug
  | warn
deriving DecidableEq, Repr

def Level.name : Level → String
  | .debug => "DEBUG"
  | .warn => "WARN"

inductive Event where
  | executing (s : Statement)
  | connected (host database : String)
  | connectFailed (host user database : String) (cause : DriverError)
deriving DecidableEq, Repr

namespace Event

def level : Event → Level
  | .connectFailed .. => .warn
  | _ => .debug

def message : Event → String
  | .executing _ => "executing statement"
  | .connected .. => "connected to MySQL"
  | .connectFailed .. => "failed to connect to MySQL"

/-- what the event carries besides its message -/
def fields : Event → List (String × String)
  | .executing s => [("kind", s.kind.keyword), ("sql", s.text)]
  | .connected host database => [("host", host), ("database", database)]
  | .connectFailed host user database cause =>
    [("host", host), ("user", user), ("database", database), ("error", cause.message)]

end Event

end FluentSql
