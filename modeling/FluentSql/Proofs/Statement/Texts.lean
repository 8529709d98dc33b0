/-
The texts of statements, letter by letter.

`Entry.Begins` and `Clause.Writes` are tables of what each beginning and each call stands for in SQL, with a line for each
join by name; they say nothing of stages or of how a text is put together. `Spells` puts a statement together from them.
- `Clause.writes_iff`: a call writes its line of the table and nothing else.
- `build?_iff_spells`: a sequence of calls is accepted if and only if it has the shape of its beginning, and then it builds
  the one statement that it spells.
-/
import FluentSql.Proofs.Statement.Grammar
import Mathlib.Data.List.Forall2

namespace FluentSql

/-! ## Tables -/

/-- the kind and the words with which a statement begins -/
inductive Entry.Begins : Entry → Kind → String → Prop where
  | select (names : List String) : Begins (.select names) .select ("SELECT " ++ ", ".intercalate names)
  | insert (table : String) : Begins (.insert table) .insert ("INSERT INTO " ++ table)
  | update (table : String) : Begins (.update table) .update ("UPDATE " ++ table)
  | delete (table : String) : Begins (.delete table) .delete ("DELETE FROM " ++ table)

/-- the words of a join, up to its table; a plain one has no word of its own, but its blank -/
inductive Clause.JoinWords : (String → String → Clause) → String → Prop where
  | plain : JoinWords plainJoin "  JOIN "
  | left : JoinWords leftJoin " LEFT JOIN "
  | leftOuter : JoinWords leftOuterJoin " LEFT OUTER JOIN "
  | right : JoinWords rightJoin " RIGHT JOIN "
  | rightOuter : JoinWords rightOuterJoin " RIGHT OUTER JOIN "
  | full : JoinWords fullJoin " FULL JOIN "
  | fullOuter : JoinWords fullOuterJoin " FULL OUTER JOIN "
  | self : JoinWords selfJoin " SELF JOIN "
  | cross : JoinWords crossJoin " CROSS JOIN "
  | inner : JoinWords innerJoin " INNER JOIN "
  /-- a join by its type -/
  | typed (type : JoinType) : JoinWords (join type) (" " ++ type.keyword ++ " JOIN ")

/-- what a call writes -/
inductive Clause.Writes : Clause → String → Prop where
  | from (table : String) : Writes (.from table) (" FROM " ++ table)
  | join {named : String → String → Clause} {words : String} (h : JoinWords named words) (table on : String) :
    Writes (named table on) (words ++ table ++ " ON " ++ on)
  | where (condition : String) : Writes (.where condition) (" WHERE " ++ condition)
  | orderBy (column : String) : Writes (.orderBy column) (" ORDER BY " ++ column)
  | limit (count : UInt64) : Writes (.limit count) (" LIMIT " ++ count.toNat.repr)
  | columns (names : List String) : Writes (.columns names) (" (" ++ ", ".intercalate names ++ ")")
  | valuesText (sql : String) : Writes (.values (.text sql)) (" VALUES (" ++ sql ++ ")")
  | values (ls : List Literal) :
    Writes (.values (.literals ls)) (" VALUES (" ++ ", ".intercalate (ls.map fun l => l.render .values) ++ ")")
  /-- the names as columns, and behind them the values -/
  | object (r : Record) :
    Writes (.object r) (" (" ++ ", ".intercalate (r.map fun p => p.1) ++ ") VALUES (" ++
      ", ".intercalate (r.map fun p => p.2.render .values) ++ ")")
  | setText (sql : String) : Writes (.set (.text sql)) (" SET " ++ sql)
  | setList (sqls : List String) : Writes (.set (.list sqls)) (" SET " ++ ", ".intercalate sqls)
  | set (r : Record) :
    Writes (.set (.record r)) (" SET " ++ ", ".intercalate (r.map fun p => p.1 ++ "=" ++ p.2.render .set))

/-- the statement of a beginning and the calls behind it: of the kind of the beginning, with its words and then what each
call writes, in the order of the calls -/
inductive Spells (e : Entry) (cs : List Clause) : Statement → Prop where
  | intro {kind : Kind} {words : String} {fragments : List String} (he : e.Begins kind words)
    (hcs : List.Forall₂ Clause.Writes cs fragments) : Spells e cs ⟨kind, words ++ String.join fragments⟩

/-! ## One call -/

theorem Clause.JoinWords.call_eq {named : String → String → Clause} {words : String} (h : JoinWords named words)
    (table on : String) : (named table on).call = .join := by
  cases h <;> rfl

theorem Clause.JoinWords.fragment_eq {named : String → String → Clause} {words : String} (h : JoinWords named words)
    (table on : String) : (named table on).fragment = words ++ table ++ " ON " ++ on := by
  cases h with
  | typed type => simp only [fragment, String.append_assoc]
  | _ => rfl

/-- a column list and a VALUES list, one behind the other -/
theorem Clause.columnsFragment_append (names : List String) (list : ValueList) :
    columnsFragment names ++ valuesFragment list =
      " (" ++ ", ".intercalate names ++ ") VALUES (" ++ list.render ++ ")" := by
  have hbetween : ")" ++ " VALUES (" = ") VALUES (" := rfl
  rw [columnsFragment, valuesFragment, columnText, ← hbetween]
  simp only [String.append_assoc]

theorem Clause.fragment_object (r : Record) :
    (Clause.object r).fragment = " (" ++ ", ".intercalate (r.map fun p => p.1) ++ ") VALUES (" ++
      ", ".intercalate (r.map fun p => p.2.render .values) ++ ")" := by
  have hvalues : (ValueList.literals r.literals).render = ", ".intercalate (r.map fun p => p.2.render .values) := by
    rw [ValueList.render, Literal.renderList, Record.literals, List.map_map]
    rfl
  rw [fragment, columnsFragment_append, hvalues]
  rfl

/-- a call writes its fragment and nothing else -/
theorem Clause.writes_iff {c : Clause} {s : String} : c.Writes s ↔ c.fragment = s := by
  constructor
  · intro h
    cases h with
    | join h table on => exact h.fragment_eq table on
    | object r => exact fragment_object r
    | _ => rfl
  · rintro rfl
    cases c with
    | «from» table => exact .from table
    | join type table on =>
      rw [(JoinWords.typed type).fragment_eq]
      exact .join (.typed type) table on
    | «where» condition => exact .where condition
    | orderBy column => exact .orderBy column
    | limit count => exact .limit count
    | columns names => exact .columns names
    | values list =>
      cases list with
      | text sql => exact .valuesText sql
      | literals ls => exact .values ls
    | object r =>
      rw [fragment_object]
      exact .object r
    | set a =>
      cases a with
      | text sql => exact .setText sql
      | list sqls => exact .setList sqls
      | record r => exact .set r

theorem Entry.begins_iff {e : Entry} {kind : Kind} {words : String} :
    e.Begins kind words ↔ kind = e.draft.statement.kind ∧ words = e.draft.statement.text := by
  constructor
  · rintro ⟨⟩ <;> exact ⟨rfl, rfl⟩
  · rintro ⟨rfl, rfl⟩
    cases e with
    | select names => exact .select names
    | insert table => exact .insert table
    | update table => exact .update table
    | delete table => exact .delete table

/-! ## Statements -/

theorem forall₂_writes_iff {cs : List Clause} {fragments : List String} :
    List.Forall₂ Clause.Writes cs fragments ↔ cs.map Clause.fragment = fragments := by
  have hwrites : Clause.Writes = fun c s => c.fragment = s := funext₂ fun _ _ => propext Clause.writes_iff
  rw [hwrites, ← List.forall₂_map_left_iff (R := (· = ·)), List.forall₂_eq_eq_eq]

theorem spells_iff {e : Entry} {cs : List Clause} {s : Statement} :
    Spells e cs s ↔
      s = ⟨e.draft.statement.kind, e.draft.statement.text ++ String.join (cs.map Clause.fragment)⟩ := by
  constructor
  · rintro ⟨he, hcs⟩
    obtain ⟨rfl, rfl⟩ := Entry.begins_iff.1 he
    rw [← forall₂_writes_iff.1 hcs]
  · rintro rfl
    exact .intro (Entry.begins_iff.2 ⟨rfl, rfl⟩) (forall₂_writes_iff.2 rfl)

/-- **The builder language.** Behind any beginning, a sequence of calls is accepted if and only if it has the shape of the
beginning, where a join by any name or type is one letter. What it then builds is the statement that beginning and calls
spell, and no other. -/
theorem build?_iff_spells (e : Entry) (cs : List Clause) :
    ((∃ d, e.build? cs = some d) ↔ cs.map Clause.call ∈ e.shape.matches') ∧
      (∀ named words, Clause.JoinWords named words → ∀ table on, (named table on).call = .join) ∧
      ∀ d, e.build? cs = some d → ∀ s, Spells e cs s ↔ s = d.statement := by
  refine ⟨exists_build?_iff e cs, fun _ _ hjoin => hjoin.call_eq, fun d h s => ?_⟩
  rw [spells_iff, statement_foldlM_extend? h]

/-- a join by its name, one by its type and one that is plain, between the other clauses -/
theorem build?_iff_spells_of_joins :
    let e : Entry := .select ["o.id", "u.name"]
    let cs : List Clause := [.from "orders o", .leftJoin "users u" "u.id=o.user_id", .join .cross "days d" "1=1",
      .plainJoin "items i" "i.id=o.item", .where "o.total>5", .orderBy "o.id", .limit 10]
    cs.map Clause.call ∈ e.shape.matches' ∧ ∃ d, e.build? cs = some d ∧ d.statement = ⟨.select,
      "SELECT o.id, u.name FROM orders o LEFT JOIN users u ON u.id=o.user_id CROSS JOIN days d ON 1=1" ++
        "  JOIN items i ON i.id=o.item WHERE o.total>5 ORDER BY o.id LIMIT 10"⟩ := by
  intro e cs
  obtain ⟨haccepted, -, hspelled⟩ := build?_iff_spells e cs
  have hbuilt : e.build? cs = some ⟨.limited, _⟩ := rfl
  have hfragments : List.Forall₂ Clause.Writes cs _ :=
    .cons (.from _) <| .cons (.join .left _ _) <| .cons (.join (.typed .cross) _ _) <| .cons (.join .plain _ _) <|
      .cons (.where _) <| .cons (.orderBy _) <| .cons (.limit _) .nil
  exact ⟨haccepted.1 ⟨_, hbuilt⟩, _, hbuilt, ((hspelled _ hbuilt _).1 (.intro (.select _) hfragments)).symm⟩

end FluentSql
