/-
Rows by the names of their columns.

A row is a map: of columns with one name it keeps the place of the first and the value of the last (`RowByName`). So it has
a member for each column, in their order, only if no two columns share a name.
- `rowByName_of_decodeRow`: this for one row.
- `select_rows_by_name`: and for all rows of a SELECT whose cells decode.
- `join_loses_id`: of two columns of a join that are both called `id`, the row keeps one member.
-/
import FluentSql.Proofs.Members
import FluentSql.Proofs.MySql.Cells
import FluentSql.Proofs.MySql.Select

namespace FluentSql.MySql

/-! ## One row -/

/-- what a row holds of its cells -/
structure RowByName (columns : List Column) (cells : List Cell) (row : Row) : Prop where
  /-- every name once, in the order in which the names come first -/
  names : row.names = (columns.map Column.key).eraseDups
  /-- under a name, the value of the last of its cells -/
  last : ∀ (j : Nat) (c : Column) (cell : Cell) (v : Json), columns[j]? = some c → cells[j]? = some cell →
    decodeCell c cell = .value v → (∀ (j' : Nat) (c' : Column), j < j' → columns[j']? = some c' → c'.key ≠ c.key) →
    row.lookup? c.key = some v
  /-- a member for each column only if no name comes twice -/
  complete : row.length = columns.length ↔ (columns.map Column.key).Nodup
  /-- and then a name and a value for each cell, in their order -/
  inOrder : (columns.map Column.key).Nodup → List.Forall₂ Makes (columns.zip cells) row

/-- every cell of a row has a value -/
def Decodes (columns : List Column) (cells : List Cell) : Prop :=
  List.Forall₂ (fun c cell => ∃ v, decodeCell c cell = .value v) columns cells

theorem exists_makes {columns : List Column} {cells : List Cell} (h : Decodes columns cells) :
    ∃ pairs, List.Forall₂ Makes (columns.zip cells) pairs ∧ pairs.map Prod.fst = columns.map Column.key := by
  induction h with
  | nil => exact ⟨[], .nil, rfl⟩
  | @cons c cell columns cells hv _ ih =>
    obtain ⟨v, hv⟩ := hv
    obtain ⟨pairs, hpairs, hnames⟩ := ih
    exact ⟨(c.key, v) :: pairs, .cons ⟨rfl, hv⟩ hpairs, by rw [List.map_cons, List.map_cons, hnames]⟩

/-- the member that cell number `j` makes -/
theorem getElem?_of_makes {columns : List Column} {cells : List Cell} {pairs : List (String × Json)}
    (h : List.Forall₂ Makes (columns.zip cells) pairs) {j : Nat} {c : Column} {cell : Cell} {v : Json}
    (hc : columns[j]? = some c) (hcell : cells[j]? = some cell) (hv : decodeCell c cell = .value v) :
    pairs[j]? = some (c.key, v) := by
  obtain ⟨hlen, hall⟩ := List.forall₂_iff_get.1 h
  have hp : (columns.zip cells)[j]? = some (c, cell) := List.getElem?_zip_eq_some.2 ⟨hc, hcell⟩
  obtain ⟨hj, hget⟩ := List.getElem?_eq_some_iff.1 hp
  have hmakes : Makes (c, cell) pairs[j] := by
    have hmakes := hall j hj (hlen ▸ hj)
    rwa [List.get_eq_getElem, List.get_eq_getElem, hget] at hmakes
  obtain ⟨hkey, hvalue⟩ := hmakes
  rw [hv, Decoded.value.injEq] at hvalue
  rw [List.getElem?_eq_getElem (hlen ▸ hj), hvalue, ← hkey]

theorem rowByName_of_makes {columns : List Column} {cells : List Cell} {pairs : List (String × Json)}
    (h : List.Forall₂ Makes (columns.zip cells) pairs) (hnames : pairs.map Prod.fst = columns.map Column.key) :
    RowByName columns cells (Members.ofPairs pairs) where
  names := by rw [Members.names_ofPairs, hnames]
  last := by
    intro j c cell v hc hcell hv hlast
    apply Members.lookup?_ofPairs_of_last (getElem?_of_makes h hc hcell hv)
    intro j' q hlt hq
    have hkey : (columns.map Column.key)[j']? = some q.1 := by rw [← hnames, List.getElem?_map, hq, Option.map_some]
    rw [List.getElem?_map, Option.map_eq_some_iff] at hkey
    obtain ⟨c', hc', hkey⟩ := hkey
    exact hkey ▸ hlast j' c' hlt hc'
  complete := by
    have hlen : pairs.length = columns.length := by simpa using congrArg List.length hnames
    rw [← hlen, ← hnames]
    exact Members.length_ofPairs_eq_iff pairs
  inOrder := by
    intro hnodup
    rw [← hnames] at hnodup
    rwa [Members.ofPairs_of_nodup hnodup]

theorem rowByName_of_decodeRow {columns : List Column} {cells : List Cell} (h : Decodes columns cells) :
    ∃ row, decodeRow columns cells = .ok row ∧ RowByName columns cells row := by
  obtain ⟨pairs, hpairs, hnames⟩ := exists_makes h
  exact ⟨Members.ofPairs pairs, decodeRow_of_makes hpairs, rowByName_of_makes hpairs hnames⟩

/-! ## All rows -/

/-- **A member for each name.** Of a SELECT whose rows arrive and whose cells all decode, every row has the names of the
columns once each, in the order in which they come first, and under each name the value of the last cell with it. It has
as many members as there are columns exactly if no two columns share a name, and then the members are the names and the
values of the cells, in their order. -/
theorem select_rows_by_name (r : Reply) (replies : List Reply) (text : String) (hread : r.IsReadable)
    (hsent : r.serverError? = none) (hcells : ∀ cells ∈ r.sentRows, Decodes r.columns cells) :
    ∃ result, (gateway.execute .select text (r :: replies)).1 = .done ⟨0, none, result⟩ ∧
      List.Forall₂ (RowByName r.columns) r.sentRows result := by
  obtain ⟨result, hrows, hall⟩ := exists_mapM_eq_ok _ fun cells hmem => rowByName_of_decodeRow (hcells cells hmem)
  exact ⟨result, select_eq_done hread hsent hrows text replies, hall⟩

/-- two columns of three share a name -/
theorem select_rows_by_name_of_join :
    let id : Column := ⟨"id", none, .long, 63, 0⟩
    let columns : List Column := [id, ⟨"name", none, .varString, 45, 0⟩, id]
    let r : Reply := .table columns [[some (wordBytes 4 1), some [0x61], some (wordBytes 4 2)]] none
    r.IsReadable ∧ r.serverError? = none ∧ (∀ cells ∈ r.sentRows, Decodes r.columns cells) ∧
      ∃ result, (gateway.execute .select "SELECT * FROM a LEFT JOIN b ON a.id=b.id" [r]).1 = .done ⟨0, none, result⟩ ∧
        List.Forall₂ (RowByName r.columns) r.sentRows result := by
  intro id columns r
  have hread : ∀ c ∈ columns, c.type ≠ .newDate := by decide
  have hcells : ∀ cells ∈ r.sentRows, Decodes r.columns cells := by
    intro cells hmem
    rw [List.mem_singleton.1 hmem]
    obtain ⟨k, -, hk⟩ := decodeCell_integer (c := id) (n := 1) rfl (by decide)
    obtain ⟨m, -, hm⟩ := decodeCell_integer (c := id) (n := 2) rfl (by decide)
    exact .cons ⟨.int k, hk⟩ (.cons ⟨.text "a", rfl⟩ (.cons ⟨.int m, hm⟩ .nil))
  exact ⟨hread, rfl, hcells, select_rows_by_name r [] _ hread rfl hcells⟩

/-- both tables of a join have a column `id`; the row keeps one member, with the cell of the second -/
theorem join_loses_id :
    let id : Column := ⟨"id", none, .long, 63, 0⟩
    let cells : List Cell := [some (wordBytes 4 1), some (wordBytes 4 2)]
    Decodes [id, id] cells ∧
      (gateway.execute .select "SELECT * FROM a LEFT JOIN b ON a.id=b.id" [.table [id, id] [cells] none]).1 =
        .done ⟨0, none, [[("id", .int (.ofUInt8 2))]]⟩ ∧
      ¬ List.Forall₂ Makes ([id, id].zip cells) [("id", .int (.ofUInt8 2))] := by
  intro id cells
  obtain ⟨k, -, hk⟩ := decodeCell_integer (c := id) (n := 1) rfl (by decide)
  obtain ⟨m, hval, hm⟩ := decodeCell_integer (c := id) (n := 2) rfl (by decide)
  have hmakes : List.Forall₂ Makes ([id, id].zip cells) [("id", .int k), ("id", .int m)] :=
    .cons ⟨rfl, hk⟩ (.cons ⟨rfl, hm⟩ .nil)
  have hrows : [cells].mapM (decodeRow [id, id]) = .ok [[("id", .int (.ofUInt8 2))]] := by
    have htwo : m = .ofUInt8 2 := by
      cases m
      cases hval
      rfl
    rw [mapM_cons_ok _ (decodeRow_of_makes hmakes), htwo]
    rfl
  have hread : ∀ c ∈ [id, id], c.type ≠ .newDate := by decide
  refine ⟨.cons ⟨.int k, hk⟩ (.cons ⟨.int m, hm⟩ .nil), ?_, fun h => ?_⟩
  · exact select_eq_done (r := .table [id, id] [cells] none) hread rfl hrows _ []
  · have hlen : 2 = 1 := h.length_eq
    omega

end FluentSql.MySql
