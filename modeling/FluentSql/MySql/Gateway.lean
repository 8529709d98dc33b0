/-
The gateway to a MySQL server.

`connect` opens it with some options over a link, the state of things between here and the server; `gateway` runs
statements on it, one reply of the server for each. A SELECT is all or nothing: its rows are all decoded, or it fails
with the first fault. Other statements give the counters of the server.
-/
import FluentSql.Gateway
import FluentSql.MySql.Decode
import FluentSql.Options.Basic
import FluentSql.Trace

namespace FluentSql.MySql

/-! ## Connecting -/

/-- what an attempt to connect meets -/
inductive Link where
  /-- no way to the server, for a reason that the system gives -/
  | unreachable (reason : String)
  /-- the server turns the connection down -/
  | refusing (e : ServerError)
  | serving
deriving DecidableEq, Repr

/-- what comes of an attempt, with the event that it leaves -/
inductive Opening where
  | opened (event : Event)
  | failed (e : Error) (event : Event)
  | crashed
deriving DecidableEq, Repr

/-- why no connection is made: there is no time to wait for one, the host name cannot be looked up, or the link fails -/
def fault? (o : Options) (link : Link) : Option DriverError :=
  if o.connectTimeout = 0 then some .poolTimedOut
  else if o.host.toList.contains '\x00' then some (.io "file name contained an unexpected NUL byte")
  else match link with
    | .unreachable reason => some (.io reason)
    | .refusing e => some (.server e)
    | .serving => none

/-- the pool cannot be used at all: it is one of no connections, or the end of the wait is past the last second of the
system's clock, which counts from the start of the machine in signed 64 bits -/
def isUnusable (o : Options) : Bool := o.maxConnections == 0 || 0x7FFFFFFFFFFFFFFF ≤ o.connectTimeout.toNat

/-- open a pool of connections -/
def connect (o : Options) (link : Link) : Opening :=
  if isUnusable o then .crashed
  else match fault? o link with
    | none => .opened (.connected o.host o.database)
    | some cause =>
      .failed (.connection (.ofAttempt o.host o.user o.password o.database cause))
        (.connectFailed o.host o.user o.database cause)

/-! ## Executing -/

/-- the server's reply to a statement -/
inductive Reply where
  | refused (e : ServerError)
  | done (affectedRows lastInsertId : UInt64)
  /-- columns and rows, which an error may cut short -/
  | table (columns : List Column) (rows : List (List Cell)) (broken : Option ServerError)
deriving Repr, Inhabited

/-- an error in place of a result, if the reply has one; a type that is not known cannot be read past -/
def Reply.fault? : Reply → Option DriverError
  | .refused e => some (.server e)
  | .done .. => none
  | .table columns _ broken =>
    if columns.any fun c => c.type = .newDate then some (.protocol "unknown column type 0x0e")
    else broken.map .server

/-- rows affected and generated id -/
def Reply.counters : Reply → UInt64 × UInt64
  | .done affectedRows lastInsertId => (affectedRows, lastInsertId)
  | _ => (0, 0)

/-- the rows, decoded in order up to the first fault -/
def Reply.rows : Reply → Except RowFault (List Row)
  | .table columns rows _ => rows.mapM (decodeRow columns)
  | _ => .ok []

def selected : Except RowFault (List Row) → Outcome
  | .ok rows => .done { rows := rows }
  | .error (.column index fault) => .failed (.execution (.columnDecode index.repr fault.message))
  | .error .crash => .crashed

/-- an INSERT reports the generated id, even if it is 0 -/
def written (kind : Kind) (r : Reply) : ResultSet where
  rowsAffected := r.counters.1
  lastInsertId := if kind = .insert then some r.counters.2 else none

def execute (kind : Kind) (r : Reply) : Outcome :=
  match r.fault? with
  | some cause => .failed (.execution cause)
  | none => if kind = .select then selected r.rows else .done (written kind r)

/-- one reply after the other; when none is left, the server has nothing to report -/
def gateway : Gateway (List Reply) where
  execute kind _
    | [] => (execute kind (.done 0 0), [])
    | reply :: replies => (execute kind reply, replies)

end FluentSql.MySql
