/-
The grammar of statements: which sequences of builder calls are accepted.

`Entry.shape` writes, for each way to begin, the legal calls as a regular expression over their names; it knows no
stages. `Stage.rest` is the same for each stage: what may still follow.
- `Stage.cons_mem_rest`: a call may follow a stage exactly if the stage offers it and the remaining calls may follow
  the stage that it leads to.
- `exists_build?_iff`: a sequence is accepted if and only if it has the shape of its beginning.
- `statement_foldlM_extend?`: the statement keeps its kind, and its text grows by one fragment for each call, in their order.
-/
import Mathlib.Computability.RegularExpressions
import FluentSql.Statement.Draft

namespace FluentSql

open RegularExpression

/-! ## Shapes -/

/-- a builder call without its arguments; a join of any type is one call -/
inductive Call where
  | from
  | join
  | where
  | orderBy
  | limit
  | columns
  | values
  | object
  | set
deriving DecidableEq, Repr

def Clause.call : Clause → Call
  | .from _ => .from
  | .join .. => .join
  | .where _ => .where
  | .orderBy _ => .orderBy
  | .limit _ => .limit
  | .columns _ => .columns
  | .values _ => .values
  | .object _ => .object
  | .set _ => .set

/-- what may be left out -/
def opt (r : RegularExpression Call) : RegularExpression Call := 1 + r

/-- the legal calls behind a beginning -/
def Entry.shape : Entry → RegularExpression Call
  | .select _ =>
    opt (char .from * opt (char .orderBy + star (char .join) * opt (char .where * opt (char .orderBy)))) *
      opt (char .limit)
  | .insert _ => opt (char .columns * opt (char .values)) + char .object
  | .update _ => star (char .join) * opt (char .set * opt (char .where) * opt (char .limit))
  | .delete _ => star (char .join) * opt (char .where) * opt (char .limit)

/-- the legal calls behind a stage -/
def Stage.rest : Stage → RegularExpression Call
  | .selectStatement =>
    opt (char .from * opt (char .orderBy + star (char .join) * opt (char .where * opt (char .orderBy)))) *
      opt (char .limit)
  | .selectFrom =>
    opt (char .orderBy + star (char .join) * opt (char .where * opt (char .orderBy))) * opt (char .limit)
  | .selectJoined => star (char .join) * opt (char .where * opt (char .orderBy)) * opt (char .limit)
  | .selectWhere => opt (char .orderBy) * opt (char .limit)
  | .insertStatement => opt (char .columns * opt (char .values)) + char .object
  | .insertColumns => opt (char .values)
  | .updateStatement | .updateJoined => star (char .join) * opt (char .set * opt (char .where) * opt (char .limit))
  | .updateSet => opt (char .where) * opt (char .limit)
  | .deleteStatement | .deleteJoined => star (char .join) * opt (char .where) * opt (char .limit)
  | .selectOrdered | .updateWhere | .deleteWhere => opt (char .limit)
  | .insertValues | .limited => 1

theorem Entry.rest_draft (e : Entry) : e.draft.stage.rest = e.shape := by
  cases e <;> rfl

/-! ## Languages by their first letter -/

section Language

variable {α : Type} (a b : α) (w : List α) (k l m : Language α)

theorem nil_mem_mul : [] ∈ k * l ↔ [] ∈ k ∧ [] ∈ l := by
  simp [Language.mem_mul]

theorem mem_add_mul : w ∈ (k + l) * m ↔ w ∈ k * m ∨ w ∈ l * m := by
  rw [add_mul, Language.mem_add]

theorem cons_mem_letter : a :: w ∈ ({[b]} : Language α) ↔ a = b ∧ w = [] := by
  rw [← List.cons_eq_cons]; rfl

theorem cons_mem_letter_mul : a :: w ∈ ({[b]} : Language α) * l ↔ a = b ∧ w ∈ l := by
  rw [Language.mem_mul]
  constructor
  · rintro ⟨u, hu, v, hv, huv⟩
    obtain rfl : u = [b] := hu
    obtain ⟨rfl, rfl⟩ := List.cons_eq_cons.1 huv
    exact ⟨rfl, hv⟩
  · rintro ⟨rfl, hw⟩
    exact ⟨[a], rfl, w, hw, rfl⟩

open Computability in
/-- a repetition begins with its letter or is over -/
theorem cons_mem_star_mul :
    a :: w ∈ ({[b]} : Language α)∗ * l ↔ (a = b ∧ w ∈ ({[b]} : Language α)∗ * l) ∨ a :: w ∈ l := by
  nth_rewrite 1 [← Language.one_add_self_mul_kstar_eq_kstar]
  rw [mem_add_mul, one_mul, mul_assoc, cons_mem_letter_mul, or_comm]

end Language

/-! ## Acceptance -/

theorem Stage.nil_mem_rest (s : Stage) : [] ∈ s.rest.matches' := by
  cases s <;> simp [Stage.rest, opt, nil_mem_mul, Language.mem_add, Language.nil_mem_kstar]

/-- **One call.** A call may follow a stage exactly if the stage offers it and the other calls may follow the stage that
it leads to. -/
theorem Stage.cons_mem_rest (s : Stage) (c : Clause) (w : List Call) :
    c.call :: w ∈ s.rest.matches' ↔ ∃ t, s.after? c = some t ∧ w ∈ t.rest.matches' := by
  cases s <;> cases c <;>
    simp [Stage.rest, Stage.after?, Clause.call, opt, mul_assoc, Language.mem_add, mem_add_mul, cons_mem_letter,
      cons_mem_letter_mul, cons_mem_star_mul]

theorem isSome_foldlM_extend? (d : Draft) (cs : List Clause) :
    (cs.foldlM Draft.extend? d).isSome ↔ cs.map Clause.call ∈ d.stage.rest.matches' := by
  induction cs generalizing d with
  | nil => simp [Stage.nil_mem_rest]
  | cons c cs ih =>
    rw [List.map_cons, Stage.cons_mem_rest, List.foldlM_cons]
    cases h : d.stage.after? c with
    | none => simp [Draft.extend?, h]
    | some t => simp [Draft.extend?, h, ih]

/-- **Acceptance.** Behind any beginning, a sequence of calls is accepted if and only if it has the shape of the
beginning. -/
theorem exists_build?_iff (e : Entry) (cs : List Clause) :
    (∃ d, e.build? cs = some d) ↔ cs.map Clause.call ∈ e.shape.matches' := by
  rw [← Option.isSome_iff_exists, ← e.rest_draft]
  exact isSome_foldlM_extend? e.draft cs

/-- an ordering closes the conditions -/
example : (Entry.select ["*"]).build? [.from "t", .orderBy "id", .where "id=1"] = none := rfl

/-! ## Growth -/

/-- the kind stays, and each call adds its fragment -/
theorem statement_foldlM_extend? {d d' : Draft} {cs : List Clause} (h : cs.foldlM Draft.extend? d = some d') :
    d'.statement = ⟨d.statement.kind, d.statement.text ++ String.join (cs.map Clause.fragment)⟩ := by
  induction cs generalizing d with
  | nil =>
    obtain rfl : d = d' := by simpa using h
    simp
  | cons c cs ih =>
    rw [List.foldlM_cons] at h
    obtain ⟨m, hm, h⟩ := Option.bind_eq_some_iff.1 h
    obtain ⟨t, -, rfl⟩ := Option.map_eq_some_iff.1 hm
    rw [ih h]
    simp [Statement.append, String.append_assoc]

end FluentSql
