/-
Statements in stages.

A `Draft` is a statement together with the stage it has reached; the stage decides which clauses may follow
(`Stage.after?`) and whether the statement may be executed (`Stage.isComplete`). `extend?` adds one clause,
`Entry.build?` a whole sequence to a statement just begun; both refuse a clause that the stage does not offer. Extending
a draft makes a new one, so a draft may be extended in several ways.
-/
import FluentSql.Statement.Basic
import FluentSql.Statement.Clause

namespace FluentSql

/-! ## Stages -/

/-- how far a statement has come: its kind and its last clause, except that a limit ends them all alike -/
inductive Stage where
  | selectStatement
  | selectFrom
  | selectJoined
  | selectWhere
  | selectOrdered
  | insertStatement
  | insertColumns
  | insertValues
  | updateStatement
  | updateJoined
  | updateSet
  | updateWhere
  | deleteStatement
  | deleteJoined
  | deleteWhere
  | limited
deriving DecidableEq, Repr

namespace Stage

/-- the stage that a clause leads to, `none` if it may not follow -/
def after? : Stage → Clause → Option Stage
  | .selectStatement, .from _ => some .selectFrom
  | .selectStatement, .limit _ => some .limited
  | .selectFrom, .join .. => some .selectJoined
  | .selectFrom, .where _ => some .selectWhere
  | .selectFrom, .orderBy _ => some .selectOrdered
  | .selectFrom, .limit _ => some .limited
  | .selectJoined, .join .. => some .selectJoined
  | .selectJoined, .where _ => some .selectWhere
  | .selectJoined, .limit _ => some .limited
  | .selectWhere, .orderBy _ => some .selectOrdered
  | .selectWhere, .limit _ => some .limited
  | .selectOrdered, .limit _ => some .limited
  | .insertStatement, .columns _ => some .insertColumns
  | .insertStatement, .object _ => some .insertValues
  | .insertColumns, .values _ => some .insertValues
  | .updateStatement, .join .. => some .updateJoined
  | .updateStatement, .set _ => some .updateSet
  | .updateJoined, .join .. => some .updateJoined
  | .updateJoined, .set _ => some .updateSet
  | .updateSet, .where _ => some .updateWhere
  | .updateSet, .limit _ => some .limited
  | .updateWhere, .limit _ => some .limited
  | .deleteStatement, .join .. => some .deleteJoined
  | .deleteStatement, .where _ => some .deleteWhere
  | .deleteStatement, .limit _ => some .limited
  | .deleteJoined, .join .. => some .deleteJoined
  | .deleteJoined, .where _ => some .deleteWhere
  | .deleteJoined, .limit _ => some .limited
  | .deleteWhere, .limit _ => some .limited
  | _, _ => none

/-- the statement may be executed: a bare DELETE, an UPDATE without SET or a SELECT without FROM may not -/
def isComplete : Stage → Bool
  | .selectStatement | .insertStatement | .insertColumns | .updateStatement | .updateJoined | .deleteStatement => false
  | _ => true

def name : Stage → String
  | .selectStatement => "SelectStatement"
  | .selectFrom => "SelectFrom"
  | .selectJoined => "SelectJoined"
  | .selectWhere => "SelectWhere"
  | .selectOrdered => "SelectOrdered"
  | .insertStatement => "InsertStatement"
  | .insertColumns => "InsertColumns"
  | .insertValues => "InsertValues"
  | .updateStatement => "UpdateStatement"
  | .updateJoined => "UpdateJoined"
  | .updateSet => "UpdateSet"
  | .updateWhere => "UpdateWhere"
  | .deleteStatement => "DeleteStatement"
  | .deleteJoined => "DeleteJoined"
  | .deleteWhere => "DeleteWhere"
  | .limited => "Limited"

end Stage

/-! ## Drafts -/

structure Draft where
  stage : Stage
  statement : Statement
deriving DecidableEq, Repr

namespace Draft

/-- the draft with one more clause -/
def extend? (d : Draft) (c : Clause) : Option Draft :=
  (d.stage.after? c).map fun stage => ⟨stage, d.statement.append c.fragment⟩

/-- the draft as a developer is shown it -/
def inspect (d : Draft) : String := d.stage.name ++ " \x7b statement: " ++ d.statement.inspect ++ " \x7d"

end Draft

/-! ## Beginnings -/

/-- the four ways to begin a statement -/
inductive Entry where
  | select (columns : List String)
  | insert (table : String)
  | update (table : String)
  | delete (table : String)
deriving DecidableEq, Repr

namespace Entry

def draft : Entry → Draft
  | .select columns => ⟨.selectStatement, .select, "SELECT " ++ columnText columns⟩
  | .insert table => ⟨.insertStatement, .insert, "INSERT INTO " ++ table⟩
  | .update table => ⟨.updateStatement, .update, "UPDATE " ++ table⟩
  | .delete table => ⟨.deleteStatement, .delete, "DELETE FROM " ++ table⟩

/-- a statement begun and extended by the clauses in turn -/
def build? (e : Entry) (clauses : List Clause) : Option Draft := clauses.foldlM Draft.extend? e.draft

end Entry

end FluentSql
