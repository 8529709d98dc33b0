/-
Rows that are read and written back.

A cell of an integer, a decimal or a text column holds a `Datum`, and so does the row that is read of it: an INSERT of
the row writes every datum as it was.
- `exists_json`: one cell, read and written.
- `insert_writes_back`: all rows of a SELECT, with the names and the literals in the order of the columns.
-/
import FluentSql.Proofs.Literal.Texts
import FluentSql.Proofs.Members
import FluentSql.Proofs.MySql.Cells
import FluentSql.Proofs.MySql.Select
import FluentSql.Proofs.Statement.Records

namespace FluentSql.MySql

open FluentSql.Text

/-! ## Data -/

/-- what a cell holds -/
inductive Datum where
  | null
  | integer (n : Int)
  | characters (s : String)
deriving DecidableEq, Repr

namespace Datum

/-- its bytes in a column -/
def cell (c : Column) : Datum → Cell
  | .null => none
  | .integer n => some (wordBytes c.type.width n)
  | .characters s => some (Utf8.encode s)

/-- the column can hold it -/
def Fits (c : Column) : Datum → Prop
  | .null => True
  | .integer n => c.type.isInteger = true ∧ c.Holds n
  | .characters _ => c.type.isDecimal = true ∨ c.isText = true

/-- how it is written in a VALUES list -/
def literal : Datum → String
  | .null => "NULL"
  | .integer n => n.repr
  | .characters s => "\"" ++ s ++ "\""

end Datum

/-- columns of integers, of decimals and of text -/
def Column.IsExact (c : Column) : Prop := c.type.isInteger = true ∨ c.type.isDecimal = true ∨ c.isText = true

theorem Column.IsExact.ne_newDate {c : Column} (h : c.IsExact) : c.type ≠ .newDate := by
  intro hc
  rcases h with h | h | h
  · rw [hc] at h; cases h
  · rw [hc] at h; cases h
  · rw [Column.isText, hc] at h; cases h

/-! ## One cell -/

/-- a datum is read as a value that is written as the datum is -/
theorem exists_json {c : Column} {d : Datum} (h : d.Fits c) :
    ∃ j, decodeCell c (d.cell c) = .value j ∧ (Literal.ofJson j).render .values = d.literal := by
  cases d with
  | null => exact ⟨.null, rfl, rfl⟩
  | integer n =>
    obtain ⟨k, hk, hcell⟩ := decodeCell_integer h.1 h.2
    exact ⟨.int k, hcell, by rw [Literal.ofJson, Literal.render_ofInteger, hk]; rfl⟩
  | characters s =>
    rcases h with hdecimal | htext
    · exact ⟨.text s, decodeCell_decimal hdecimal s, rfl⟩
    · exact ⟨.text s, decodeCell_text htext s, rfl⟩

/-! ## One row -/

theorem exists_pairs {columns : List Column} {data : List Datum} (h : List.Forall₂ Datum.Fits columns data) :
    ∃ pairs, List.Forall₂ Makes (columns.zip (List.zipWith Datum.cell columns data)) pairs ∧
      pairs.map Prod.fst = columns.map Column.key ∧
      (Record.ofMembers pairs).literals.map (Literal.render .values) = data.map Datum.literal := by
  induction h with
  | nil => exact ⟨[], .nil, rfl, rfl⟩
  | @cons c d columns data hfits _ ih =>
    obtain ⟨j, hcell, hliteral⟩ := exists_json hfits
    obtain ⟨pairs, hmakes, hnames, hliterals⟩ := ih
    refine ⟨(c.key, j) :: pairs, .cons ⟨rfl, hcell⟩ hmakes, ?_, ?_⟩
    · rw [List.map_cons, List.map_cons, hnames]
    · rw [List.map_cons, ← hliterals, ← hliteral]
      rfl

/-- **Exact.** Rows of integers, decimals and texts, or of NULL in their place, in columns of different names: what a
SELECT returns of them, put into an INSERT, is written with the names of the columns and the very data of the row, in the
order of the columns. -/
theorem insert_writes_back (table text : String) (columns : List Column) (rows : List (List Datum))
    (replies : List Reply) (hcolumns : ∀ c ∈ columns, c.IsExact) (hnames : (columns.map Column.key).Nodup)
    (hrows : ∀ data ∈ rows, List.Forall₂ Datum.Fits columns data) :
    let reply : Reply := .table columns (rows.map (List.zipWith Datum.cell columns)) none
    ∃ result, (gateway.execute .select text (reply :: replies)).1 = .done ⟨0, none, result⟩ ∧
      List.Forall₂ (fun data row => (Entry.insert table).build? [.object (.ofMembers row)] =
        some ⟨.insertValues, .insert, "INSERT INTO " ++ table ++ " (" ++ ", ".intercalate (columns.map Column.key) ++
          ") VALUES (" ++ ", ".intercalate (data.map Datum.literal) ++ ")"⟩) rows result := by
  intro reply
  have hread : reply.IsReadable := fun c hc => (hcolumns c hc).ne_newDate
  have hrow : ∀ data ∈ rows, ∃ row, decodeRow columns (List.zipWith Datum.cell columns data) = .ok row ∧
      (Entry.insert table).build? [.object (.ofMembers row)] =
        some ⟨.insertValues, .insert, "INSERT INTO " ++ table ++ " (" ++ ", ".intercalate (columns.map Column.key) ++
          ") VALUES (" ++ ", ".intercalate (data.map Datum.literal) ++ ")"⟩ := by
    intro data hdata
    obtain ⟨pairs, hmakes, hkeys, hliterals⟩ := exists_pairs (hrows data hdata)
    have hdecode : decodeRow columns (List.zipWith Datum.cell columns data) = .ok pairs := by
      rw [decodeRow_of_makes hmakes, Members.ofPairs_of_nodup (hkeys ▸ hnames)]
    have hrecord : (Record.ofMembers pairs).names = columns.map Column.key := by
      rw [← hkeys]
      simp [Record.names, Record.ofMembers, Record.ofPairs, Function.comp_def]
    exact ⟨pairs, hdecode, by rw [build?_object, hrecord, hliterals]⟩
  obtain ⟨result, hresult, hall⟩ :=
    exists_mapM_eq_ok (fun data => decodeRow columns (List.zipWith Datum.cell columns data)) hrow
  refine ⟨result, select_eq_done hread rfl ?_ text replies, hall⟩
  rw [← hresult]
  exact List.mapM_map

/-- an unsigned word past the signed ones, the smallest signed word, a decimal, a text that spells a document, and NULL -/
theorem insert_writes_back_extremes :
    let columns : List Column := [⟨"id", none, .longLong, 63, 32⟩, ⟨"delta", none, .longLong, 63, 0⟩,
      ⟨"price", none, .newDecimal, 63, 0⟩, ⟨"note", none, .varString, 45, 0⟩, ⟨"rest", none, .blob, 224, 0⟩]
    let data : List Datum := [.integer 0xFFFFFFFFFFFFFFFF, .integer (-0x8000000000000000), .characters "12.50",
      .characters "[null, 1]", .null]
    (∀ c ∈ columns, c.IsExact) ∧ (columns.map Column.key).Nodup ∧ List.Forall₂ Datum.Fits columns data ∧
      ∃ row, (gateway.execute .select "SELECT * FROM t"
          [.table columns [List.zipWith Datum.cell columns data] none]).1 = .done ⟨0, none, [row]⟩ ∧
        (Entry.insert "t").build? [.object (.ofMembers row)] = some ⟨.insertValues, .insert,
          "INSERT INTO t (id, delta, price, note, rest) VALUES " ++
            "(18446744073709551615, -9223372036854775808, \"12.50\", \"[null, 1]\", NULL)"⟩ := by
  intro columns data
  have hcolumns : ∀ c ∈ columns, c.IsExact := by
    simp [columns, Column.IsExact, ColumnType.isInteger, ColumnType.isDecimal, Column.isText, ColumnType.isString]
  have hnames : (columns.map Column.key).Nodup := by decide
  have hdata : List.Forall₂ Datum.Fits columns data :=
    .cons ⟨rfl, by decide⟩ (.cons ⟨rfl, by decide⟩ (.cons (.inl rfl) (.cons (.inr rfl) (.cons trivial .nil))))
  obtain ⟨result, hdone, hall⟩ := insert_writes_back "t" "SELECT * FROM t" columns [data] [] hcolumns hnames
    fun d hd => List.mem_singleton.1 hd ▸ hdata
  cases hall with
  | cons hrow hnil =>
    cases hnil
    exact ⟨hcolumns, hnames, hdata, _, hdone, hrow⟩

end FluentSql.MySql
