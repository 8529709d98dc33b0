/-
A SELECT is all or nothing.

A reply is judged by two questions that know nothing of decoding rows: does the server report an error
(`Reply.serverError?`), and which cells do not decode (`FaultAt`). The rows are decoded in two loops, over rows and over
the cells of one row; each stops at its first fault:
- `not_faultAt_of_rows`, `firstFault_of_rows`: no cell is at fault if all rows decode, and else the fault is the first.
- `select_all_or_nothing`: an error of the server decides, also behind rows that do not decode; without one, all rows are
  returned in their order, or else the fault that is first, row by row and from left to right.
-/
import FluentSql.MySql.Gateway
import FluentSql.Proofs.MySql.Rows

namespace FluentSql.MySql

/-! ## Replies -/

def Reply.columns : Reply → List Column
  | .table columns _ _ => columns
  | _ => []

/-- the rows that the server has sent -/
def Reply.sentRows : Reply → List (List Cell)
  | .table _ rows _ => rows
  | _ => []

/-- the error that the server reports, at the beginning or behind some rows -/
def Reply.serverError? : Reply → Option ServerError
  | .refused e => some e
  | .done .. => none
  | .table _ _ broken => broken

/-- every column is of a type that the driver knows -/
def Reply.IsReadable (r : Reply) : Prop := ∀ c ∈ r.columns, c.type ≠ .newDate

theorem Reply.rows_eq (r : Reply) : r.rows = r.sentRows.mapM (decodeRow r.columns) := by
  cases r <;> rfl

theorem Reply.fault?_of_isReadable {r : Reply} (h : r.IsReadable) : r.fault? = r.serverError?.map .server := by
  cases r with
  | refused e => rfl
  | done affectedRows lastInsertId => rfl
  | table columns rows broken =>
    have hno : ¬ columns.any (fun c => c.type = .newDate) = true := by
      rw [List.any_eq_true]
      rintro ⟨c, hc, hnew⟩
      exact h c hc (of_decide_eq_true hnew)
    rw [fault?, if_neg hno]
    rfl

theorem Reply.fault?_of_not_isReadable {r : Reply} (h : ¬ r.IsReadable) :
    r.fault? = some (.protocol "unknown column type 0x0e") := by
  unfold IsReadable at h
  push Not at h
  obtain ⟨c, hc, hnew⟩ := h
  cases r with
  | refused e => cases hc
  | done affectedRows lastInsertId => cases hc
  | table columns rows broken =>
    have hany : columns.any (fun c => c.type = .newDate) = true := List.any_eq_true.2 ⟨c, hc, decide_eq_true hnew⟩
    rw [fault?, if_pos hany]

/-- a SELECT whose rows arrive and decode returns them -/
theorem select_eq_done {r : Reply} (hread : r.IsReadable) (hsent : r.serverError? = none) {result : List Row}
    (hrows : r.sentRows.mapM (decodeRow r.columns) = .ok result) (text : String) (replies : List Reply) :
    (gateway.execute .select text (r :: replies)).1 = .done ⟨0, none, result⟩ := by
  have hfault : r.fault? = none := by rw [Reply.fault?_of_isReadable hread, hsent]; rfl
  have houtcome : (gateway.execute .select text (r :: replies)).1 = execute .select r := rfl
  rw [houtcome, execute, hfault, Reply.rows_eq, hrows]
  rfl

/-! ## Faults of a reply -/

/-- cell number `j` of row number `i` does not decode -/
def FaultAt (columns : List Column) (rows : List (List Cell)) (i j : Nat) (fault : Text.Utf8.Fault) : Prop :=
  ∃ cells c cell, rows[i]? = some cells ∧ columns[j]? = some c ∧ cells[j]? = some cell ∧
    decodeCell c cell = .notText fault

/-- and every other cell that does not decode is in a row below or in the same row on the right -/
structure FirstFault (columns : List Column) (rows : List (List Cell)) (i j : Nat) (fault : Text.Utf8.Fault) :
    Prop where
  here : FaultAt columns rows i j fault
  first : ∀ i' j' fault', FaultAt columns rows i' j' fault' → i < i' ∨ i = i' ∧ j ≤ j'

/-- no cell of a row that decodes is at fault -/
theorem not_faultAt {columns : List Column} {rows : List (List Cell)} {i j : Nat} {fault : Text.Utf8.Fault}
    (h : ∀ cells, rows[i]? = some cells → ∃ row, decodeRow columns cells = .ok row) :
    ¬ FaultAt columns rows i j fault := by
  rintro ⟨cells, c, cell, hcells, hc, hcell, hd⟩
  obtain ⟨row, hrow⟩ := h cells hcells
  obtain ⟨v, hv⟩ := value_of_decodeRow hrow j (c, cell) (List.getElem?_zip_eq_some.2 ⟨hc, hcell⟩)
  rw [hv] at hd
  cases hd

theorem not_faultAt_of_rows {columns : List Column} {rows : List (List Cell)} {result : List Row}
    (h : rows.mapM (decodeRow columns) = .ok result) (i j : Nat) (fault : Text.Utf8.Fault) :
    ¬ FaultAt columns rows i j fault :=
  not_faultAt fun _ hcells => exists_ok_of_mem _ h (List.mem_of_getElem? hcells)

/-- the fault of the rows is the first one, row by row and from left to right -/
theorem firstFault_of_rows {columns : List Column} (hfloat : ∀ c ∈ columns, c.type ≠ .float) {rows : List (List Cell)}
    {e : RowFault} (h : rows.mapM (decodeRow columns) = .error e) :
    ∃ i j fault, e = .column j fault ∧ FirstFault columns rows i j fault := by
  obtain ⟨i, cells, hcells, hrow, habove⟩ := (mapM_eq_error_iff _).1 h
  obtain ⟨j, c, cell, fault, rfl, hc, hcell, hd, hleft⟩ := fault_of_decodeRow hfloat hrow
  refine ⟨i, j, fault, rfl, ⟨cells, c, cell, hcells, hc, hcell, hd⟩, fun i' j' fault' hf => ?_⟩
  rcases Nat.lt_trichotomy i' i with hi | rfl | hi
  · exact absurd hf (not_faultAt (habove i' hi))
  · refine .inr ⟨rfl, Nat.le_of_not_lt fun hj => ?_⟩
    obtain ⟨cells', c', cell', hcells', hc', hcell', hd'⟩ := hf
    obtain rfl : cells = cells' := Option.some.inj (hcells.symm.trans hcells')
    obtain ⟨v, hv⟩ := hleft j' hj (c', cell') (List.getElem?_zip_eq_some.2 ⟨hc', hcell'⟩)
    rw [hv] at hd'
    cases hd'
  · exact .inl hi

/-- **A SELECT is all or nothing.** Of a reply without columns of single floats: if the server reports an error, then
that is what comes of it, whatever the rows sent before it are. Otherwise either every cell decodes, and all rows come,
each as it decodes and in the order of the server, with no counters; or there is a cell that does not, and the first of
them is reported in place of all rows. A column of a type that the driver does not know cannot be read past. -/
theorem select_all_or_nothing (r : Reply) (replies : List Reply) (text : String)
    (hfloat : ∀ c ∈ r.columns, c.type ≠ .float) :
    let outcome := (gateway.execute .select text (r :: replies)).1
    (r.IsReadable →
      (∀ e, r.serverError? = some e → outcome = .failed (.execution (.server e))) ∧
      (r.serverError? = none → (∀ i j fault, ¬ FaultAt r.columns r.sentRows i j fault) →
        ∃ rows, outcome = .done ⟨0, none, rows⟩ ∧
          List.Forall₂ (fun cells row => decodeRow r.columns cells = .ok row) r.sentRows rows) ∧
      (r.serverError? = none → (∃ i j fault, FaultAt r.columns r.sentRows i j fault) →
        ∃ i j fault, FirstFault r.columns r.sentRows i j fault ∧
          outcome = .failed (.execution (.columnDecode j.repr fault.message)))) ∧
    (¬ r.IsReadable → outcome = .failed (.execution (.protocol "unknown column type 0x0e"))) := by
  intro outcome
  have houtcome : outcome = execute .select r := rfl
  refine ⟨fun hread => ⟨fun e he => ?_, fun hnone hclean => ?_, fun hnone hfault => ?_⟩, fun hread => ?_⟩
  · rw [houtcome, execute, Reply.fault?_of_isReadable hread, he]
    rfl
  · rw [houtcome, execute, Reply.fault?_of_isReadable hread, hnone, Reply.rows_eq]
    cases hrows : r.sentRows.mapM (decodeRow r.columns) with
    | ok rows => exact ⟨rows, rfl, (mapM_eq_ok_iff _).1 hrows⟩
    | error e =>
      obtain ⟨i, j, fault, -, hfirst⟩ := firstFault_of_rows hfloat hrows
      exact absurd hfirst.here (hclean i j fault)
  · rw [houtcome, execute, Reply.fault?_of_isReadable hread, hnone, Reply.rows_eq]
    cases hrows : r.sentRows.mapM (decodeRow r.columns) with
    | ok rows =>
      obtain ⟨i, j, fault, hf⟩ := hfault
      exact absurd hf (not_faultAt_of_rows hrows i j fault)
    | error e =>
      obtain ⟨i, j, fault, rfl, hfirst⟩ := firstFault_of_rows hfloat hrows
      exact ⟨i, j, fault, hfirst, rfl⟩
  · rw [houtcome, execute, Reply.fault?_of_not_isReadable hread]

/-- a cell that is no text, in the second of three rows: cut off behind them, without it, and with it -/
theorem select_all_or_nothing_at_geometry :
    let columns : List Column := [⟨"name", none, .varString, 45, 0⟩, ⟨"place", none, .geometry, 63, 0⟩]
    let rows : List (List Cell) :=
      [[some [0x61], none], [some [0x62], some [0xFF]], [some [0x63], some [0xC3]]]
    let interrupted : ServerError := ⟨1317, some "70100", "Query execution was interrupted"⟩
    let select (r : Reply) : Outcome := (gateway.execute .select "SELECT name, place FROM t" [r]).1
    select (.table columns rows (some interrupted)) = .failed (.execution (.server interrupted)) ∧
      (∃ decoded, select (.table columns (rows.take 1) none) = .done ⟨0, none, decoded⟩ ∧
        List.Forall₂ (fun cells row => decodeRow columns cells = .ok row) (rows.take 1) decoded) ∧
      (∃ i j fault, FirstFault columns rows i j fault ∧
        select (.table columns rows none) = .failed (.execution (.columnDecode j.repr fault.message))) ∧
      select (.table [⟨"day", none, .newDate, 63, 0⟩] [] none) =
        .failed (.execution (.protocol "unknown column type 0x0e")) := by
  intro columns rows interrupted select
  have hfloat : ∀ c ∈ columns, c.type ≠ .float := by decide
  have hread : ∀ c ∈ columns, c.type ≠ .newDate := by decide
  have hclean : (rows.take 1).mapM (decodeRow columns) = .ok [[("name", .text "a"), ("place", .null)]] := rfl
  have hfault : FaultAt columns rows 1 1 ⟨0, some 1⟩ := ⟨_, _, _, rfl, rfl, rfl, rfl⟩
  exact ⟨((select_all_or_nothing (.table columns rows (some interrupted)) [] _ hfloat).1 hread).1 _ rfl,
    ((select_all_or_nothing (.table columns (rows.take 1) none) [] _ hfloat).1 hread).2.1 rfl (not_faultAt_of_rows hclean),
    ((select_all_or_nothing (.table columns rows none) [] _ hfloat).1 hread).2.2 rfl ⟨1, 1, _, hfault⟩,
    (select_all_or_nothing (.table [⟨"day", none, .newDate, 63, 0⟩] [] none) [] _ (by decide)).2
      fun h => h _ List.mem_cons_self rfl⟩

end FluentSql.MySql
