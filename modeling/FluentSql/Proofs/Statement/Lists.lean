/-
The lists of a finished statement: the columns behind SELECT and the assignments behind SET.

No call looks into what it is given. A list is as empty as what it is made of, and where every name and every text is
given (`Worded`) only a collection with nothing in it makes an empty list.
- `columnText_eq_empty_iff`, `Assignments.render_eq_empty_iff`: one list.
- `lists_empty_iff`: both lists in the text of a statement that may be executed.
- `void_lists_finished`: a SELECT of no columns and an UPDATE of no assignments may be.
-/
import FluentSql.Proofs.Members
import FluentSql.Proofs.Statement.Complete

namespace FluentSql

/-! ## What callers give -/

/-- no name and no text in it is empty -/
def Assignments.IsWorded : Assignments → Prop
  | .text sql => sql ≠ ""
  | .list sqls => ∀ s ∈ sqls, s ≠ ""
  | .record r => ∀ n ∈ r.names, n ≠ ""

def ValueList.IsWorded : ValueList → Prop
  | .text sql => sql ≠ ""
  | .literals _ => True

def Clause.IsWorded : Clause → Prop
  | .from table => table ≠ ""
  | .join _ table on => table ≠ "" ∧ on ≠ ""
  | .where condition => condition ≠ ""
  | .orderBy column => column ≠ ""
  | .limit _ => True
  | .columns names => ∀ n ∈ names, n ≠ ""
  | .values list => list.IsWorded
  | .object record => ∀ n ∈ record.names, n ≠ ""
  | .set assignments => assignments.IsWorded

def Entry.IsWorded : Entry → Prop
  | .select columns => ∀ n ∈ columns, n ≠ ""
  | .insert table => table ≠ ""
  | .update table => table ≠ ""
  | .delete table => table ≠ ""

/-- every name and every text of a sequence of calls is given -/
structure Worded (e : Entry) (cs : List Clause) : Prop where
  entry : e.IsWorded
  clauses : ∀ c ∈ cs, c.IsWorded

/-- a collection with nothing in it -/
def Assignments.isVoid : Assignments → Bool
  | .text _ => false
  | .list sqls => sqls.isEmpty
  | .record r => r.isEmpty

/-! ## One list -/

theorem intercalate_eq_empty_iff {ss : List String} (h : ∀ s ∈ ss, s ≠ "") (between : String) :
    between.intercalate ss = "" ↔ ss = [] := by
  cases ss with
  | nil => simp
  | cons s ss =>
    have hs : s ≠ "" := h s List.mem_cons_self
    cases ss <;> simp [hs]

theorem columnText_eq_empty_iff {names : List String} (h : ∀ n ∈ names, n ≠ "") :
    columnText names = "" ↔ names = [] :=
  intercalate_eq_empty_iff h ", "

/-- an assignment is never empty, whatever its name -/
theorem Assignments.pairText_ne_empty (p : String × Literal) : pairText p ≠ "" := by
  simp [pairText]

theorem Assignments.render_eq_empty_iff {a : Assignments} (h : a.IsWorded) : a.render = "" ↔ a.isVoid = true := by
  cases a with
  | text sql => exact iff_of_false h Bool.false_ne_true
  | list sqls => rw [render, intercalate_eq_empty_iff h, isVoid, List.isEmpty_iff]
  | record r =>
    have hpairs : ∀ s ∈ r.map pairText, s ≠ "" := by
      intro s hs
      obtain ⟨p, -, rfl⟩ := List.mem_map.1 hs
      exact pairText_ne_empty p
    rw [render, intercalate_eq_empty_iff hpairs, List.map_eq_nil_iff, isVoid, List.isEmpty_iff]

/-- a record is void exactly if nothing was in what it was made of: pairs, a sorted map of them, a JSON object -/
theorem isVoid_record {α : Type} [ToLiteral α] (pairs : List (String × α)) (members : Members Json) :
    ((Assignments.record (.ofPairs pairs)).isVoid = true ↔ pairs = []) ∧
      ((Assignments.record (.ofSorted pairs)).isVoid = true ↔ pairs = []) ∧
      ((Assignments.record (.ofMembers members)).isVoid = true ↔ members = []) := by
  have hpairs {β : Type} [ToLiteral β] (ps : List (String × β)) :
      (Assignments.record (.ofPairs ps)).isVoid = true ↔ ps = [] := by
    rw [Assignments.isVoid, List.isEmpty_iff, Record.ofPairs, List.map_eq_nil_iff]
  refine ⟨hpairs pairs, ?_, hpairs members⟩
  exact (hpairs (Members.sortedOfPairs pairs)).trans (Members.sortedOfPairs_eq_nil_iff pairs)

/-! ## Finished statements -/

/-- the only assignments among some calls, and what is in front of them and behind -/
theorem exists_set_of_count {cs : List Clause} (h : (cs.map Clause.call).count .set = 1) :
    ∃ before a after, cs = before ++ .set a :: after ∧ .set ∉ (before ++ after).map Clause.call := by
  have hmem : .set ∈ cs.map Clause.call := List.count_pos_iff.1 (by omega)
  obtain ⟨c, hc, hcall⟩ := List.mem_map.1 hmem
  obtain ⟨a, rfl⟩ := Clause.exists_of_call hcall
  obtain ⟨before, after, rfl⟩ := List.append_of_mem hc
  refine ⟨before, a, after, rfl, ?_⟩
  rw [List.map_append, List.map_cons, List.count_append, List.count_cons, hcall] at h
  rw [List.map_append, ← List.count_eq_zero, List.count_append]
  simp only [beq_self_eq_true, if_true] at h
  omega

/-- the lists in the text of a statement, and when they are empty -/
structure Listed (e : Entry) (cs : List Clause) (s : Statement) : Prop where
  columns : s.kind = .select → ∃ names, e = .select names ∧
    s.text = "SELECT " ++ columnText names ++ String.join (cs.map Clause.fragment) ∧ (columnText names = "" ↔ names = [])
  assignments : s.kind = .update → ∃ table before a after, e = .update table ∧ cs = before ++ .set a :: after ∧
    .set ∉ (before ++ after).map Clause.call ∧
    s.text = "UPDATE " ++ table ++ String.join (before.map Clause.fragment) ++ " SET " ++ a.render ++
      String.join (after.map Clause.fragment) ∧
    (a.render = "" ↔ a.isVoid = true)

theorem listed {e : Entry} {cs : List Clause} {d : Draft} (h : e.build? cs = some d) (hc : d.stage.isComplete = true)
    (hw : Worded e cs) : Listed e cs d.statement where
  columns := by
    intro hk
    rw [statement_foldlM_extend? h] at hk ⊢
    obtain ⟨names, rfl⟩ := Entry.exists_of_kind hk
    exact ⟨names, rfl, rfl, columnText_eq_empty_iff hw.entry⟩
  assignments := by
    intro hk
    have hs := sufficient_of_build? h hc
    rw [hk] at hs
    obtain ⟨before, a, after, rfl, hother⟩ := exists_set_of_count hs
    rw [statement_foldlM_extend? h] at hk ⊢
    obtain ⟨table, rfl⟩ := Entry.exists_of_kind hk
    have ha : a.IsWorded := hw.clauses (.set a) (by simp)
    refine ⟨table, before, a, after, rfl, rfl, hother, ?_, Assignments.render_eq_empty_iff ha⟩
    simp [Entry.draft, Clause.fragment, String.append_assoc]

/-- **Lists.** In a statement that may be executed and whose names and texts are all given, the columns behind SELECT are
empty exactly if no column was given, and the assignments behind SET exactly if a collection with nothing in it was: a
list of texts, or a record of no pairs in any of its forms. -/
theorem lists_empty_iff {e : Entry} {cs : List Clause} {d : Draft} (h : e.build? cs = some d)
    (hc : d.stage.isComplete = true) (hw : Worded e cs) :
    Listed e cs d.statement ∧ ∀ {α : Type} [ToLiteral α] (pairs : List (String × α)) (members : Members Json),
      ((Assignments.record (.ofPairs pairs)).isVoid = true ↔ pairs = []) ∧
        ((Assignments.record (.ofSorted pairs)).isVoid = true ↔ pairs = []) ∧
        ((Assignments.record (.ofMembers members)).isVoid = true ↔ members = []) :=
  ⟨listed h hc hw, fun pairs members => isVoid_record pairs members⟩

/-- an UPDATE with a join, two assignments and a limit -/
theorem lists_empty_iff_of_join :
    let cs : List Clause :=
      [.join .left "b" "a.id=b.id", .set (.record [("x", .null), ("y", .bool true)]), .limit 3]
    let d : Draft := ⟨.limited, .update, "UPDATE a LEFT JOIN b ON a.id=b.id SET x=NULL, y=TRUE LIMIT 3"⟩
    (Entry.update "a").build? cs = some d ∧ d.stage.isComplete = true ∧ Worded (.update "a") cs ∧
      Listed (.update "a") cs d.statement := by
  intro cs d
  have hbuild : (Entry.update "a").build? cs = some d := rfl
  have hnames : Record.names [("x", .null), ("y", .bool true)] = ["x", "y"] := rfl
  have hworded : Worded (.update "a") cs :=
    ⟨by simp [Entry.IsWorded], by simp [cs, Clause.IsWorded, Assignments.IsWorded, hnames]⟩
  exact ⟨hbuild, rfl, hworded, (lists_empty_iff hbuild rfl hworded).1⟩

/-- a SELECT of no columns and an UPDATE of no assignments, from a list and from a map -/
theorem void_lists_finished :
    let none : Record := .ofSorted ([] : List (String × Literal))
    (Worded (.select []) [.from "t"] ∧
      (Entry.select []).build? [.from "t"] = some ⟨.selectFrom, .select, "SELECT " ++ "" ++ " FROM t"⟩) ∧
    (Worded (.update "t") [.set (.list [])] ∧
      (Entry.update "t").build? [.set (.list [])] = some ⟨.updateSet, .update, "UPDATE t SET " ++ ""⟩) ∧
    (Worded (.update "t") [.set (.record none)] ∧
      (Entry.update "t").build? [.set (.record none)] = some ⟨.updateSet, .update, "UPDATE t SET " ++ ""⟩) ∧
    Stage.selectFrom.isComplete = true ∧ Stage.updateSet.isComplete = true := by
  intro none
  have hnames : none.names = [] := rfl
  have hselect : Worded (.select []) [.from "t"] := ⟨by simp [Entry.IsWorded], by simp [Clause.IsWorded]⟩
  have hlist : Worded (.update "t") [.set (.list [])] :=
    ⟨by simp [Entry.IsWorded], by simp [Clause.IsWorded, Assignments.IsWorded]⟩
  have hrecord : Worded (.update "t") [.set (.record none)] :=
    ⟨by simp [Entry.IsWorded], by simp [Clause.IsWorded, Assignments.IsWorded, hnames]⟩
  exact ⟨⟨hselect, rfl⟩, ⟨hlist, rfl⟩, ⟨hrecord, rfl⟩, rfl, rfl⟩

end FluentSql
