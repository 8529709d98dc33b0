/-
What a statement that may be executed is made of.

`Stage.Holds` says of each stage which kind a statement there has and which calls it has behind it; `holds_after` keeps
it by every call that a stage offers. Where the stage is complete, it gives `Sufficient`: a DELETE is narrowed, an UPDATE
sets once, an INSERT has columns and values, a SELECT has a source or is cut off at a limit right away.

`Finished` says what follows for the text. The calls are taken to pieces by the shape of their beginning
(`exists_eq_joins_append`, `exists_eq_set`, `exists_eq_where_limit`), and the pieces are written out.
-/
import FluentSql.Proofs.Statement.Texts

namespace FluentSql

open RegularExpression

/-- the calls without which no statement of the kind is executed -/
def Sufficient (calls : List Call) : Kind → Prop
  | .select => .from ∈ calls ∨ calls = [.limit]
  | .insert => calls = [.columns, .values] ∨ calls = [.object]
  | .update => calls.count .set = 1
  | .delete => .join ∈ calls ∨ .where ∈ calls ∨ .limit ∈ calls

/-- kind and calls of the statements at a stage -/
def Stage.Holds (kind : Kind) (calls : List Call) : Stage → Prop
  | .selectStatement => kind = .select ∧ calls = []
  | .selectFrom | .selectJoined | .selectWhere | .selectOrdered => kind = .select ∧ .from ∈ calls
  | .insertStatement => kind = .insert ∧ calls = []
  | .insertColumns => kind = .insert ∧ calls = [.columns]
  | .insertValues => kind = .insert ∧ Sufficient calls .insert
  | .updateStatement | .updateJoined => kind = .update ∧ .set ∉ calls
  | .updateSet | .updateWhere => kind = .update ∧ calls.count .set = 1
  | .deleteStatement => kind = .delete ∧ calls = []
  | .deleteJoined | .deleteWhere => kind = .delete ∧ Sufficient calls .delete
  | .limited => Sufficient calls kind

theorem Entry.holds_draft (e : Entry) : e.draft.stage.Holds e.draft.statement.kind [] := by
  cases e <;> simp [Entry.draft, Stage.Holds]

theorem Stage.holds_after {s t : Stage} {c : Clause} {kind : Kind} {calls : List Call} (h : s.after? c = some t)
    (hs : s.Holds kind calls) : t.Holds kind (calls ++ [c.call]) := by
  cases s <;> cases c <;> simp only [Stage.after?, Option.some.injEq, reduceCtorEq] at h <;> subst h <;>
    simp_all [Stage.Holds, Sufficient, Clause.call, List.count_eq_zero]

theorem Stage.sufficient_of_isComplete {s : Stage} {kind : Kind} {calls : List Call} (h : s.isComplete = true)
    (hs : s.Holds kind calls) : Sufficient calls kind := by
  cases s <;> simp_all [Stage.isComplete, Stage.Holds, Sufficient]

theorem holds_foldlM_extend? {d d' : Draft} {cs : List Clause} {calls : List Call}
    (h : cs.foldlM Draft.extend? d = some d') (hd : d.stage.Holds d.statement.kind calls) :
    d'.stage.Holds d'.statement.kind (calls ++ cs.map Clause.call) := by
  induction cs generalizing d calls with
  | nil =>
    obtain rfl : d = d' := by simpa using h
    simpa using hd
  | cons c cs ih =>
    rw [List.foldlM_cons] at h
    obtain ⟨m, hm, h⟩ := Option.bind_eq_some_iff.1 h
    obtain ⟨t, ht, rfl⟩ := Option.map_eq_some_iff.1 hm
    simpa using ih h (Stage.holds_after ht hd)

/-- **Complete statements.** What a finished sequence of calls has built has the calls that its kind requires. -/
theorem sufficient_of_build? {e : Entry} {cs : List Clause} {d : Draft} (h : e.build? cs = some d)
    (hc : d.stage.isComplete = true) : Sufficient (cs.map Clause.call) d.statement.kind := by
  simpa using Stage.sufficient_of_isComplete hc (holds_foldlM_extend? h e.holds_draft)

/-! ## Calls in pieces -/

section

variable {cs : List Clause}

/-- what a call is, by its letter -/
theorem Clause.exists_of_call {c : Clause} {letter : Call} (h : c.call = letter) :
    match letter with
    | .from => ∃ table, c = .from table
    | .join => ∃ type table on, c = .join type table on
    | .where => ∃ condition, c = .where condition
    | .orderBy => ∃ column, c = .orderBy column
    | .limit => ∃ count, c = .limit count
    | .columns => ∃ names, c = .columns names
    | .values => ∃ list, c = .values list
    | .object => ∃ record, c = .object record
    | .set => ∃ assignments, c = .set assignments := by
  subst h
  cases c <;> simp [call]

/-- what a beginning is, by its kind -/
theorem Entry.exists_of_kind {e : Entry} {kind : Kind} (h : e.draft.statement.kind = kind) :
    match kind with
    | .select => ∃ names, e = .select names
    | .insert => ∃ table, e = .insert table
    | .update => ∃ table, e = .update table
    | .delete => ∃ table, e = .delete table := by
  subst h
  cases e <;> simp [draft]

/-- joins come first -/
theorem exists_eq_joins_append {l : Language Call} (h : cs.map Clause.call ∈ (star (char .join)).matches' * l) :
    ∃ joins rest, cs = joins ++ rest ∧ (∀ c ∈ joins, c.call = .join) ∧ rest.map Clause.call ∈ l := by
  induction cs with
  | nil => exact ⟨[], [], rfl, by simp, ((nil_mem_mul _ _).1 h).2⟩
  | cons c cs ih =>
    rcases (cons_mem_star_mul ..).1 h with ⟨hc, hcs⟩ | hrest
    · obtain ⟨joins, rest, rfl, hjoins, hrest⟩ := ih hcs
      exact ⟨c :: joins, rest, rfl, List.forall_mem_cons.2 ⟨hc, hjoins⟩, hrest⟩
    · exact ⟨[], c :: cs, rfl, by simp, hrest⟩

/-- a limit comes last -/
theorem exists_eq_limit (h : cs.map Clause.call ∈ (opt (char .limit)).matches') :
    ∃ count : Option UInt64, cs = (count.map Clause.limit).toList := by
  cases cs with
  | nil => exact ⟨none, rfl⟩
  | cons c cs =>
    have hletter : c.call = .limit ∧ cs.map Clause.call = [] := by
      simpa [opt, Language.mem_add, cons_mem_letter] using h
    obtain ⟨count, rfl⟩ := Clause.exists_of_call hletter.1
    obtain rfl := List.map_eq_nil_iff.1 hletter.2
    exact ⟨some count, rfl⟩

/-- and a condition before it -/
theorem exists_eq_where_limit (h : cs.map Clause.call ∈ (opt (char .where) * opt (char .limit)).matches') :
    ∃ (condition : Option String) (count : Option UInt64),
      cs = (condition.map Clause.where).toList ++ (count.map Clause.limit).toList := by
  rw [matches'_mul, opt, matches'_add, matches'_epsilon, mem_add_mul, one_mul] at h
  rcases h with h | h
  · obtain ⟨count, rfl⟩ := exists_eq_limit h
    exact ⟨none, count, rfl⟩
  · cases cs with
    | nil => exact ⟨none, none, rfl⟩
    | cons c cs =>
      obtain ⟨hc, hcs⟩ := (cons_mem_letter_mul ..).1 h
      obtain ⟨condition, rfl⟩ := Clause.exists_of_call hc
      obtain ⟨count, rfl⟩ := exists_eq_limit hcs
      exact ⟨some condition, count, rfl⟩

/-- the only assignments of an UPDATE, with the joins in front of them -/
theorem exists_eq_set {table : String} (h : cs.map Clause.call ∈ (Entry.update table).shape.matches')
    (hset : (cs.map Clause.call).count .set = 1) :
    ∃ joins assignments rest, cs = joins ++ .set assignments :: rest ∧ (∀ c ∈ joins, c.call = .join) ∧
      rest.map Clause.call ∈ (opt (char .where) * opt (char .limit)).matches' := by
  obtain ⟨joins, rest, rfl, hjoins, hrest⟩ := exists_eq_joins_append h
  cases rest with
  | nil =>
    have hnone : .set ∉ joins.map Clause.call := by
      rw [List.mem_map]
      rintro ⟨c, hc, hcall⟩
      rw [hjoins c hc] at hcall
      cases hcall
    rw [List.append_nil, List.count_eq_zero.2 hnone] at hset
    cases hset
  | cons c rest =>
    have hletter : c.call = .set ∧ rest.map Clause.call ∈ (opt (char .where) * opt (char .limit)).matches' := by
      simpa [opt, mul_assoc, Language.mem_add, cons_mem_letter_mul] using hrest
    obtain ⟨assignments, rfl⟩ := Clause.exists_of_call hletter.1
    exact ⟨joins, assignments, rest, rfl, hjoins, hletter.2⟩

/-- a SELECT begins with its source, if it has one -/
theorem exists_eq_from {names : List String} (h : cs.map Clause.call ∈ (Entry.select names).shape.matches')
    (hfrom : .from ∈ cs.map Clause.call) : ∃ table rest, cs = .from table :: rest := by
  cases cs with
  | nil => cases hfrom
  | cons c cs =>
    rw [Entry.shape, opt, matches'_mul, matches'_add, matches'_epsilon, mem_add_mul, one_mul] at h
    rcases h with h | h
    · have hlimit : c.call = .limit ∧ cs.map Clause.call = [] := by
        simpa [opt, Language.mem_add, cons_mem_letter] using h
      simp [hlimit.1, hlimit.2] at hfrom
    · rw [matches'_mul, mul_assoc] at h
      obtain ⟨hc, -⟩ := (cons_mem_letter_mul ..).1 h
      obtain ⟨table, rfl⟩ := Clause.exists_of_call hc
      exact ⟨table, cs, rfl⟩

end

/-! ## Texts -/

/-- the text of a join -/
def IsJoin (s : String) : Prop :=
  ∃ named words table on, Clause.JoinWords named words ∧ s = words ++ table ++ " ON " ++ on

/-- the text of a condition and a limit, either of which may be missing -/
def ending (condition : Option String) (count : Option UInt64) : String :=
  condition.elim "" (" WHERE " ++ ·) ++ count.elim "" fun n => " LIMIT " ++ n.toNat.repr

theorem isJoin_of_call {joins : List Clause} (h : ∀ c ∈ joins, c.call = .join) :
    ∀ s ∈ joins.map Clause.fragment, IsJoin s := by
  rintro s hs
  obtain ⟨c, hc, rfl⟩ := List.mem_map.1 hs
  obtain ⟨type, table, on, rfl⟩ := Clause.exists_of_call (h c hc)
  exact ⟨_, _, table, on, .typed type, (Clause.JoinWords.typed type).fragment_eq table on⟩

theorem join_ending (condition : Option String) (count : Option UInt64) :
    String.join (((condition.map Clause.where).toList ++ (count.map Clause.limit).toList).map Clause.fragment) =
      ending condition count := by
  cases condition <;> cases count <;> simp [ending, Clause.fragment]

/-- the calls of a finished statement and what they show in its text -/
structure Finished (cs : List Clause) (s : Statement) : Prop where
  calls : Sufficient (cs.map Clause.call) s.kind
  /-- an INSERT is of a table, a column list and a VALUES list -/
  lists : s.kind = .insert → ∃ (table : String) (names : List String) (list : ValueList),
    s.text = "INSERT INTO " ++ table ++ " (" ++ ", ".intercalate names ++ ") VALUES (" ++ list.render ++ ")"
  /-- an UPDATE is of a table, joins and one SET, and behind it at most a condition and a limit -/
  assigned : s.kind = .update → ∃ table joins assignments condition count, (∀ j ∈ joins, IsJoin j) ∧
    s.text = "UPDATE " ++ table ++ String.join joins ++ " SET " ++ Assignments.render assignments ++
      ending condition count
  /-- a DELETE goes on behind its table, by a join, a condition or a limit -/
  narrowed : s.kind = .delete → ∃ table joins condition count, (∀ j ∈ joins, IsJoin j) ∧
    (joins ≠ [] ∨ condition ≠ none ∨ count ≠ none) ∧
    s.text = "DELETE FROM " ++ table ++ String.join joins ++ ending condition count
  /-- a SELECT with a source has it behind its columns -/
  sourced : s.kind = .select → .from ∈ cs.map Clause.call → ∃ names table rest,
    s.text = "SELECT " ++ ", ".intercalate names ++ " FROM " ++ table ++ rest
  /-- a SELECT without a source is of columns and a limit, and nothing else -/
  sourceless : s.kind = .select → .from ∉ cs.map Clause.call → ∃ (names : List String) (count : UInt64),
    s.text = "SELECT " ++ ", ".intercalate names ++ " LIMIT " ++ count.toNat.repr

section

variable {cs : List Clause}

theorem join_insert (h : Sufficient (cs.map Clause.call) .insert) : ∃ names list,
    String.join (cs.map Clause.fragment) = Clause.columnsFragment names ++ Clause.valuesFragment list := by
  rcases h with h | h
  · obtain ⟨c, cs', rfl, hc, h⟩ := List.map_eq_cons_iff.1 h
    obtain ⟨v, rfl, hv⟩ := List.map_eq_singleton_iff.1 h
    obtain ⟨names, rfl⟩ := Clause.exists_of_call hc
    obtain ⟨list, rfl⟩ := Clause.exists_of_call hv
    exact ⟨names, list, by simp [Clause.fragment]⟩
  · obtain ⟨c, rfl, hc⟩ := List.map_eq_singleton_iff.1 h
    obtain ⟨record, rfl⟩ := Clause.exists_of_call hc
    exact ⟨record.names, .literals record.literals, by simp [Clause.fragment]⟩

theorem join_update {table : String} (h : cs.map Clause.call ∈ (Entry.update table).shape.matches')
    (hs : Sufficient (cs.map Clause.call) .update) :
    ∃ joins assignments condition count, (∀ j ∈ joins, IsJoin j) ∧
      String.join (cs.map Clause.fragment) =
        String.join joins ++ " SET " ++ Assignments.render assignments ++ ending condition count := by
  obtain ⟨joins, assignments, rest, rfl, hjoins, hrest⟩ := exists_eq_set h hs
  obtain ⟨condition, count, rfl⟩ := exists_eq_where_limit hrest
  refine ⟨joins.map Clause.fragment, assignments, condition, count, isJoin_of_call hjoins, ?_⟩
  rw [← join_ending, List.map_append, List.map_cons, String.join_append, String.join_cons, Clause.fragment]
  simp only [String.append_assoc]

theorem join_delete {table : String} (h : cs.map Clause.call ∈ (Entry.delete table).shape.matches')
    (hs : Sufficient (cs.map Clause.call) .delete) :
    ∃ joins condition count, (∀ j ∈ joins, IsJoin j) ∧ (joins ≠ [] ∨ condition ≠ none ∨ count ≠ none) ∧
      String.join (cs.map Clause.fragment) = String.join joins ++ ending condition count := by
  rw [Entry.shape, matches'_mul, matches'_mul, mul_assoc] at h
  obtain ⟨joins, rest, rfl, hjoins, hrest⟩ := exists_eq_joins_append h
  obtain ⟨condition, count, rfl⟩ := exists_eq_where_limit hrest
  refine ⟨joins.map Clause.fragment, condition, count, isJoin_of_call hjoins, ?_, ?_⟩
  · by_contra hnone
    simp only [not_or, not_not, ne_eq, List.map_eq_nil_iff] at hnone
    obtain ⟨rfl, rfl, rfl⟩ := hnone
    simp [Sufficient] at hs
  · rw [← join_ending, List.map_append, String.join_append]

end

theorem finished_of_build? {e : Entry} {cs : List Clause} {d : Draft} (h : e.build? cs = some d)
    (hc : d.stage.isComplete = true) : Finished cs d.statement := by
  have hs := sufficient_of_build? h hc
  have hshape := (exists_build?_iff e cs).1 ⟨d, h⟩
  rw [statement_foldlM_extend? h] at hs ⊢
  constructor
  case calls => exact hs
  case lists =>
    intro hk
    obtain ⟨table, rfl⟩ := Entry.exists_of_kind hk
    obtain ⟨names, list, htext⟩ := join_insert hs
    refine ⟨table, names, list, ?_⟩
    rw [htext, Clause.columnsFragment_append]
    simp only [Entry.draft, String.append_assoc]
  case assigned =>
    intro hk
    obtain ⟨table, rfl⟩ := Entry.exists_of_kind hk
    obtain ⟨joins, assignments, condition, count, hjoins, htext⟩ := join_update hshape hs
    refine ⟨table, joins, assignments, condition, count, hjoins, ?_⟩
    rw [htext]
    simp only [Entry.draft, String.append_assoc]
  case narrowed =>
    intro hk
    obtain ⟨table, rfl⟩ := Entry.exists_of_kind hk
    obtain ⟨joins, condition, count, hjoins, hnarrowed, htext⟩ := join_delete hshape hs
    refine ⟨table, joins, condition, count, hjoins, hnarrowed, ?_⟩
    rw [htext]
    simp only [Entry.draft, String.append_assoc]
  case sourced =>
    intro hk hfrom
    obtain ⟨names, rfl⟩ := Entry.exists_of_kind hk
    obtain ⟨table, rest, rfl⟩ := exists_eq_from hshape hfrom
    refine ⟨names, table, String.join (rest.map Clause.fragment), ?_⟩
    simp [Entry.draft, columnText, Clause.fragment, String.append_assoc]
  case sourceless =>
    intro hk hfrom
    obtain ⟨names, rfl⟩ := Entry.exists_of_kind hk
    obtain ⟨c, rfl, hlimit⟩ := List.map_eq_singleton_iff.1 (hs.resolve_left hfrom)
    obtain ⟨count, rfl⟩ := Clause.exists_of_call hlimit
    refine ⟨names, count, ?_⟩
    simp [Entry.draft, columnText, Clause.fragment, String.append_assoc]

end FluentSql
