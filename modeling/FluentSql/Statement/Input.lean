/-
What callers may hand to a clause.

Column lists come as a text, a list or a tuple (`ToColumns`). VALUES and SET take either a finished text, used as it is,
or data. A record is a list of named literals in the order in which they are written; a map sorted by name and a JSON
object convert to one.
-/
import FluentSql.Literal

namespace FluentSql

/-! ## Column lists -/

/-- types that name columns -/
class ToColumns (α : Type) where
  columns : α → List String

namespace ToColumns

/-- a text is one entry, whatever is in it -/
instance : ToColumns String := ⟨fun s => [s]⟩

instance : ToColumns (List String) := ⟨id⟩

instance : ToColumns (Array String) := ⟨Array.toList⟩

/-- tuples of any length, from the left -/
instance {α : Type} [ToColumns α] : ToColumns (String × α) := ⟨fun p => p.1 :: columns p.2⟩

end ToColumns

/-- the column list as it is written -/
def columnText (columns : List String) : String := ", ".intercalate columns

/-! ## Records -/

/-- named literals, in the order in which they are written -/
abbrev Record := List (String × Literal)

namespace Record

/-- pairs in their order, a name as often as it comes -/
def ofPairs {α : Type} [ToLiteral α] (pairs : List (String × α)) : Record :=
  pairs.map fun p => (p.1, ToLiteral.literal p.2)

/-- pairs put one by one into a map that is sorted by name -/
def ofSorted {α : Type} [ToLiteral α] (pairs : List (String × α)) : Record := ofPairs (Members.sortedOfPairs pairs)

/-- the members of a JSON object -/
def ofMembers (members : Members Json) : Record := ofPairs members

def names (r : Record) : List String := r.map Prod.fst

def literals (r : Record) : List Literal := r.map Prod.snd

end Record

/-! ## Values -/

/-- the body of a VALUES list -/
inductive ValueList where
  | text (sql : String)
  | literals (ls : List Literal)
deriving Repr, Inhabited

namespace ValueList

def ofList {α : Type} [ToLiteral α] (xs : List α) : ValueList := .literals (xs.map ToLiteral.literal)

/-- an array gives a literal for each item, anything else is one literal -/
def ofJson : Json → ValueList
  | .array items => ofList items
  | j => ofList [j]

def render : ValueList → String
  | .text sql => sql
  | .literals ls => Literal.renderList .values ls

end ValueList

/-! ## Assignments -/

/-- what stands behind SET -/
inductive Assignments where
  | text (sql : String)
  /-- finished assignments, one each -/
  | list (sqls : List String)
  | record (r : Record)
deriving Repr, Inhabited

namespace Assignments

def pairText (p : String × Literal) : String := p.1 ++ "=" ++ p.2.render .set

def render : Assignments → String
  | .text sql => sql
  | .list sqls => ", ".intercalate sqls
  | .record r => ", ".intercalate (r.map pairText)

end Assignments

end FluentSql
