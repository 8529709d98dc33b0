/-
The clauses that extend a statement. `Clause.fragment` is the text that a clause adds: it depends on the clause and its
arguments alone.
-/
import FluentSql.Statement.Input

namespace FluentSql

/-! ## Joins -/

inductive JoinType where
  | plain
  | left
  | leftOuter
  | right
  | rightOuter
  | full
  | fullOuter
  | self
  | cross
  | inner
deriving DecidableEq, Repr

/-- the words in front of JOIN -/
def JoinType.keyword : JoinType → String
  | .plain => ""
  | .left => "LEFT"
  | .leftOuter => "LEFT OUTER"
  | .right => "RIGHT"
  | .rightOuter => "RIGHT OUTER"
  | .full => "FULL"
  | .fullOuter => "FULL OUTER"
  | .self => "SELF"
  | .cross => "CROSS"
  | .inner => "INNER"

/-! ## Clauses -/

inductive Clause where
  | from (table : String)
  | join (type : JoinType) (table on : String)
  | where (condition : String)
  | orderBy (column : String)
  | limit (count : UInt64)
  | columns (names : List String)
  | values (list : ValueList)
  /-- column list and VALUES list of one record -/
  | object (record : Record)
  | set (assignments : Assignments)
deriving Repr, Inhabited

namespace Clause

/-! ### Joins by name, each of its type -/

def plainJoin : (table on : String) → Clause := join .plain

def leftJoin : (table on : String) → Clause := join .left

def leftOuterJoin : (table on : String) → Clause := join .leftOuter

def rightJoin : (table on : String) → Clause := join .right

def rightOuterJoin : (table on : String) → Clause := join .rightOuter

def fullJoin : (table on : String) → Clause := join .full

def fullOuterJoin : (table on : String) → Clause := join .fullOuter

def selfJoin : (table on : String) → Clause := join .self

def crossJoin : (table on : String) → Clause := join .cross

def innerJoin : (table on : String) → Clause := join .inner

/-! ### Texts -/

def columnsFragment (names : List String) : String := " (" ++ columnText names ++ ")"

def valuesFragment (list : ValueList) : String := " VALUES (" ++ list.render ++ ")"

/-- A plain join keeps the empty place of its type, so that two spaces stand in front of JOIN. -/
def fragment : Clause → String
  | .from table => " FROM " ++ table
  | .join type table on => " " ++ type.keyword ++ " JOIN " ++ table ++ " ON " ++ on
  | .where condition => " WHERE " ++ condition
  | .orderBy column => " ORDER BY " ++ column
  | .limit count => " LIMIT " ++ count.toNat.repr
  | .columns names => columnsFragment names
  | .values list => valuesFragment list
  | .object record => columnsFragment record.names ++ valuesFragment (.literals record.literals)
  | .set assignments => " SET " ++ assignments.render

end Clause

end FluentSql
