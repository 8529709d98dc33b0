/-
Values and what is inside them.

`all` is a test of a value and of all values inside it; `depth` counts the brackets that are open at once. A value is
`isWritable` if its text determines it: it holds no floats, in no object does a name come twice, and no object begins with
the name that is reserved for embedded texts.
-/
import FluentSql.Json.Parser
import Mathlib.Data.List.Nodup

namespace FluentSql.Json

/-! ## Tests -/

mutual

/-- the value passes the test, and so do all values inside it -/
def all (p : Json → Bool) : Json → Bool
  | .array xs => p (.array xs) && allItems p xs
  | .object ms => p (.object ms) && allMembers p ms
  | j => p j

def allItems (p : Json → Bool) : List Json → Bool
  | [] => true
  | x :: xs => all p x && allItems p xs

def allMembers (p : Json → Bool) : List (String × Json) → Bool
  | [] => true
  | (_, v) :: ms => all p v && allMembers p ms

end

variable {p q : Json → Bool}

theorem allMembers_iff {ms : List (String × Json)} : allMembers p ms = true ↔ ∀ m ∈ ms, m.2.all p = true := by
  induction ms with
  | nil => simp [allMembers]
  | cons m ms ih => rw [allMembers, Bool.and_eq_true_iff, ih, List.forall_mem_cons]

mutual

/-- two tests at once -/
theorem all_and : ∀ j : Json, j.all (fun v => p v && q v) = (j.all p && j.all q)
  | .array xs => by simp only [all, allItems_and xs]; ac_rfl
  | .object ms => by simp only [all, allMembers_and ms]; ac_rfl
  | .null | .bool _ | .int _ | .float _ | .text _ => by simp only [all]

theorem allItems_and : ∀ xs : List Json, allItems (fun v => p v && q v) xs = (allItems p xs && allItems q xs)
  | [] => rfl
  | x :: xs => by simp only [allItems, all_and x, allItems_and xs]; ac_rfl

theorem allMembers_and :
    ∀ ms : List (String × Json), allMembers (fun v => p v && q v) ms = (allMembers p ms && allMembers q ms)
  | [] => rfl
  | (_, v) :: ms => by simp only [allMembers, all_and v, allMembers_and ms]; ac_rfl

end

/-! ## Depth -/

mutual

/-- brackets that are open at once -/
def depth : Json → Nat
  | .array xs => depthItems xs + 1
  | .object ms => depthMembers ms + 1
  | _ => 0

def depthItems : List Json → Nat
  | [] => 0
  | x :: xs => max (depth x) (depthItems xs)

def depthMembers : List (String × Json) → Nat
  | [] => 0
  | (_, v) :: ms => max (depth v) (depthMembers ms)

end

/-! ## Values that their text determines -/

def isFloat : Json → Bool
  | .float _ => true
  | _ => false

/-- no name of an object comes twice -/
def hasDistinctNames : Json → Bool
  | .object ms => decide (ms.map Prod.fst).Nodup
  | _ => true

/-- not an object that begins with the reserved name -/
def isPlain : Json → Bool
  | .object ((name, _) :: _) => name != embeddedName
  | _ => true

def isWritable (j : Json) : Bool := !j.isFloat && j.hasDistinctNames && j.isPlain

theorem all_isWritable (j : Json) :
    j.all isWritable = (j.all (fun v => !v.isFloat) && j.all hasDistinctNames && j.all isPlain) := by
  rw [← all_and, ← all_and]
  rfl

end FluentSql.Json
