/-
Named values in an order that shows: a list of pairs in which no name comes twice.

`put` keeps the order of arrival: a name that is present keeps its place and takes the new value. `putSorted` keeps the
names ascending by code point. Either builds its list from any sequence of pairs by a fold (`ofPairs`, `sortedOfPairs`),
so of a repeated name the last value counts.
-/

namespace FluentSql

/-- values with a name each -/
abbrev Members (α : Type) := List (String × α)

namespace Members

variable {α : Type}

def names (ms : Members α) : List String := ms.map Prod.fst

def values (ms : Members α) : List α := ms.map Prod.snd

def lookup? (name : String) : Members α → Option α
  | [] => none
  | (n, v) :: rest => if n = name then some v else lookup? name rest

/-! ## Order of arrival -/

/-- the value under the name, where the name stands already or else at the end -/
def put (name : String) (value : α) : Members α → Members α
  | [] => [(name, value)]
  | (n, v) :: rest => if n = name then (n, value) :: rest else (n, v) :: put name value rest

def ofPairs (pairs : List (String × α)) : Members α := pairs.foldl (fun ms p => ms.put p.1 p.2) []

/-! ## Ascending names -/

/-- the value under the name, in front of the first larger name -/
def putSorted (name : String) (value : α) : Members α → Members α
  | [] => [(name, value)]
  | (n, v) :: rest =>
    if n = name then (n, value) :: rest
    else if name < n then (name, value) :: (n, v) :: rest
    else (n, v) :: putSorted name value rest

def sortedOfPairs (pairs : List (String × α)) : Members α := pairs.foldl (fun ms p => ms.putSorted p.1 p.2) []

end Members

end FluentSql
