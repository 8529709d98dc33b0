/-
What comes of a statement that is no SELECT.

The counters of the server are handed on as they are. A server answers an INSERT that generates no id with the id 0, and
that is handed on too, so that the id in a result need not be one that was generated (`generated?`).
- `write_reported`: the outcome for every reply, and when its id is the generated one.
- `zero_reported`: an INSERT into a table without generated ids is reported to have generated 0.
-/
import FluentSql.Proofs.MySql.Select

namespace FluentSql.MySql

/-- the id that a statement has generated, when there is one: only an INSERT generates ids, and 0 stands for none -/
def generated? (kind : Kind) (id : UInt64) : Option UInt64 := if kind = .insert ∧ id ≠ 0 then some id else none

/-- the id of the server is the one generated, except for the 0 of an INSERT -/
theorem lastInsertId_eq_generated?_iff (kind : Kind) (id : UInt64) :
    (if kind = .insert then some id else none) = generated? kind id ↔ kind ≠ .insert ∨ id ≠ 0 := by
  unfold generated?
  by_cases hkind : kind = .insert
  · by_cases hid : id = 0 <;> simp [hkind, hid]
  · simp [hkind]

/-- two results of statements of one kind are the same exactly if the counters are that count for the kind -/
theorem written_eq_iff (kind : Kind) (r r' : Reply) :
    written kind r = written kind r' ↔
      r.counters.1 = r'.counters.1 ∧ (kind = .insert → r.counters.2 = r'.counters.2) := by
  unfold written
  by_cases hkind : kind = .insert <;> simp [hkind]

theorem execute_of_ne_select {kind : Kind} (hkind : kind ≠ .select) {r : Reply} (hread : r.IsReadable)
    (hsent : r.serverError? = none) : execute kind r = .done (written kind r) := by
  rw [execute, Reply.fault?_of_isReadable hread, hsent, Option.map_none]
  exact if_neg hkind

/-- what the caller of a statement is told of a reply -/
structure WriteReported (kind : Kind) (r : Reply) (outcome : Outcome) : Prop where
  /-- the error of the server, if it reports one -/
  failed : r.IsReadable → ∀ e, r.serverError? = some e → outcome = .failed (.execution (.server e))
  unreadable : ¬ r.IsReadable → outcome = .failed (.execution (.protocol "unknown column type 0x0e"))
  /-- or else its counters and no rows, with an id for an INSERT alone -/
  done : r.IsReadable → r.serverError? = none →
    outcome = .done ⟨r.counters.1, if kind = .insert then some r.counters.2 else none, []⟩
  /-- and the id is the one generated, when there is one, unless an INSERT is answered with 0 -/
  generated_iff : r.IsReadable → r.serverError? = none →
    (outcome = .done ⟨r.counters.1, generated? kind r.counters.2, []⟩ ↔ kind ≠ .insert ∨ r.counters.2 ≠ 0)
  /-- other counters would have been reported otherwise -/
  alike_iff : r.IsReadable → r.serverError? = none → ∀ r' : Reply, r'.IsReadable → r'.serverError? = none →
    (outcome = execute kind r' ↔ r.counters.1 = r'.counters.1 ∧ (kind = .insert → r.counters.2 = r'.counters.2))

/-- **Write results.** Whatever the server replies to a statement that is no SELECT: its error is reported, or else the
rows that it has affected and, of an INSERT, its id. So the counters can be told from the result. The id is the one that
was generated, when there is one, exactly if the statement is no INSERT or is not answered with 0. -/
theorem write_reported {kind : Kind} (hkind : kind ≠ .select) (text : String) (r : Reply) (replies : List Reply) :
    WriteReported kind r (gateway.execute kind text (r :: replies)).1 := by
  have houtcome : (gateway.execute kind text (r :: replies)).1 = execute kind r := rfl
  rw [houtcome]
  constructor
  case failed =>
    intro hread e he
    rw [execute, Reply.fault?_of_isReadable hread, he]
    rfl
  case unreadable =>
    intro hread
    rw [execute, Reply.fault?_of_not_isReadable hread]
  case done =>
    intro hread hsent
    rw [execute_of_ne_select hkind hread hsent]
    rfl
  case generated_iff =>
    intro hread hsent
    rw [execute_of_ne_select hkind hread hsent, ← lastInsertId_eq_generated?_iff, Outcome.done.injEq, written,
      ResultSet.mk.injEq]
    simp
  case alike_iff =>
    intro hread hsent r' hread' hsent'
    rw [execute_of_ne_select hkind hread hsent, execute_of_ne_select hkind hread' hsent', Outcome.done.injEq,
      written_eq_iff]

/-- the largest counters, for an INSERT and for an UPDATE -/
theorem write_reported_extremes :
    let r : Reply := .done 0xFFFFFFFFFFFFFFFF 0xFFFFFFFFFFFFFFFF
    Kind.insert ≠ .select ∧ Kind.update ≠ .select ∧
      (gateway.execute .insert "INSERT INTO t (a) VALUES (1)" [r]).1 =
        .done ⟨0xFFFFFFFFFFFFFFFF, some 0xFFFFFFFFFFFFFFFF, []⟩ ∧
      (gateway.execute .update "UPDATE t SET a=1" [r]).1 = .done ⟨0xFFFFFFFFFFFFFFFF, none, []⟩ := by
  intro r
  have hread : r.IsReadable := fun c hc => nomatch hc
  have hinsert : Kind.insert ≠ .select := by decide
  have hupdate : Kind.update ≠ .select := by decide
  exact ⟨hinsert, hupdate, (write_reported hinsert _ r []).done hread rfl, (write_reported hupdate _ r []).done hread rfl⟩

/-- an INSERT of one row that generates no id -/
theorem zero_reported :
    let outcome := (gateway.execute .insert "INSERT INTO t (a) VALUES (1)" [.done 1 0]).1
    outcome = .done ⟨1, some 0, []⟩ ∧ outcome ≠ .done ⟨1, generated? .insert 0, []⟩ := by
  intro outcome
  have hzero : outcome = .done ⟨1, some 0, []⟩ := rfl
  refine ⟨hzero, ?_⟩
  rw [hzero, Ne, Outcome.done.injEq, ResultSet.mk.injEq]
  rintro ⟨-, hid, -⟩
  cases hid

end FluentSql.MySql
