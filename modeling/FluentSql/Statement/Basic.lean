/-
A statement under construction: its kind, fixed when it is begun, and the text so far. Text is only ever added at the
end.
-/
import FluentSql.Text.Quoted

namespace FluentSql

inductive Kind where
  | select
  | insert
  | update
  | delete
deriving DecidableEq, Repr

namespace Kind

/-- the word that begins the statement -/
def keyword : Kind → String
  | .select => "SELECT"
  | .insert => "INSERT"
  | .update => "UPDATE"
  | .delete => "DELETE"

def name : Kind → String
  | .select => "Select"
  | .insert => "Insert"
  | .update => "Update"
  | .delete => "Delete"

end Kind

structure Statement where
  kind : Kind
  text : String
deriving DecidableEq, Repr

namespace Statement

def append (s : Statement) (fragment : String) : Statement := { s with text := s.text ++ fragment }

/-- the statement as a developer is shown it; what it will run against is left out -/
def inspect (s : Statement) : String :=
  "Statement \x7b kind: " ++ s.kind.name ++ ", text: " ++ Text.quoted s.text ++ ", .. \x7d"

end Statement

end FluentSql
