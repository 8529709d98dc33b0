/-
The layer that runs finished statements. A `Gateway` takes the kind and the text of a statement and answers from its own
state; `scripted` answers from a list of replies made beforehand.
-/
import FluentSql.ResultSet
import FluentSql.Statement.Basic

namespace FluentSql

/-- what comes of an execution -/
inductive Outcome where
  | done (r : ResultSet)
  | failed (e : Error)
  /-- the gateway broke down and gave no answer at all -/
  | crashed
deriving Repr, Inhabited

structure Gateway (σ : Type) where
  execute : Kind → String → σ → Outcome × σ

/-- a reply that only execution can fail with -/
abbrev Reply := Except DriverError ResultSet

def Outcome.ofReply : Reply → Outcome
  | .ok r => .done r
  | .error cause => .failed (.execution cause)

/-- one reply after the other; when none is left, an empty result -/
def Gateway.scripted : Gateway (List Reply) where
  execute _ _
    | [] => (.done {}, [])
    | reply :: replies => (.ofReply reply, replies)

end FluentSql
