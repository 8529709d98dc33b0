/-
Replies that break the gateway down.

A cell of single floats is the only one that does (`decodeCell_eq_crash_iff`), and a cell counts only if every cell
before it decodes, row by row and from left to right (`FirstUndecoded`):
- `rows_eq_error_iff`: what is wrong with the rows of a reply is what is wrong with that first cell.
- `answers_iff`: every statement is answered, by a result or by an execution error, except a SELECT whose first cell that
  does not decode is one of single floats.
- `single_not_answered`: a row with nothing but a single float in it is enough.
-/
import FluentSql.Proofs.MySql.Select

namespace FluentSql.MySql

/-! ## Cells -/

/-- single floats break down: the reading of floats, which is tried on them first, finds too few bytes -/
theorem decodeCell_eq_crash_iff {c : Column} {cell : Cell} :
    decodeCell c cell = .crash ↔ c.type = .float ∧ ∃ bytes, cell = some bytes := by
  constructor
  · intro h
    cases cell with
    | none => cases h
    | some bytes => exact ⟨by_contra fun hf => decodeCell_ne_crash hf (some bytes) h, bytes, rfl⟩
  · rintro ⟨hf, bytes, rfl⟩
    simp [decodeCell, Reading.all, Reading.signed, Reading.unsigned, Reading.double, hf,
      ColumnType.isDated, ColumnType.isInteger]

/-! ## Rows -/

/-- cell number `j` of row number `i`, with its column -/
def CellAt (columns : List Column) (rows : List (List Cell)) (i j : Nat) (p : Column × Cell) : Prop :=
  ∃ cells, rows[i]? = some cells ∧ columns[j]? = some p.1 ∧ cells[j]? = some p.2

/-- and it is the first, row by row and from left to right, that has no value -/
structure FirstUndecoded (columns : List Column) (rows : List (List Cell)) (i j : Nat) (p : Column × Cell) :
    Prop where
  here : CellAt columns rows i j p
  fails : ∀ v, decodeCell p.1 p.2 ≠ .value v
  before : ∀ i' j' q, CellAt columns rows i' j' q → i' < i ∨ i' = i ∧ j' < j → ∃ v, decodeCell q.1 q.2 = .value v

theorem ne_value_of_member {n : Nat} {p : Column × Cell} {e : RowFault} (h : member n p = .error e) (v : Json) :
    decodeCell p.1 p.2 ≠ .value v := by
  intro hv
  rw [member, hv] at h
  cases h

/-- the rows fail with the first cell that does not decode -/
theorem rows_eq_error_iff {columns : List Column} {rows : List (List Cell)} {e : RowFault} :
    rows.mapM (decodeRow columns) = .error e ↔
      ∃ i j p, FirstUndecoded columns rows i j p ∧ member j p = .error e := by
  rw [mapM_eq_error_iff]
  constructor
  · rintro ⟨i, cells, hcells, hrow, habove⟩
    obtain ⟨j, c, cell, hc, hcell, he, hleft⟩ := decodeRow_eq_error_iff.1 hrow
    refine ⟨i, j, (c, cell), ⟨⟨cells, hcells, hc, hcell⟩, ne_value_of_member he, ?_⟩, he⟩
    rintro i' j' q ⟨cells', hcells', hc', hcell'⟩ (hi | ⟨rfl, hj⟩)
    · exact exists_decodeRow_iff.1 (habove i' hi cells' hcells') j' q (List.getElem?_zip_eq_some.2 ⟨hc', hcell'⟩)
    · obtain rfl : cells = cells' := Option.some.inj (hcells.symm.trans hcells')
      exact hleft j' hj q (List.getElem?_zip_eq_some.2 ⟨hc', hcell'⟩)
  · rintro ⟨i, j, ⟨c, cell⟩, ⟨⟨cells, hcells, hc, hcell⟩, -, hbefore⟩, he⟩
    refine ⟨i, cells, hcells, decodeRow_eq_error_iff.2 ⟨j, c, cell, hc, hcell, he, fun m hm q hq => ?_⟩, ?_⟩
    · obtain ⟨hqc, hqcell⟩ := List.getElem?_zip_eq_some.1 hq
      exact hbefore i m q ⟨cells, hcells, hqc, hqcell⟩ (.inr ⟨rfl, hm⟩)
    · refine fun m hm cells' hcells' => exists_decodeRow_iff.2 fun j' q hq => ?_
      obtain ⟨hqc, hqcell⟩ := List.getElem?_zip_eq_some.1 hq
      exact hbefore m j' q ⟨cells', hcells', hqc, hqcell⟩ (.inl hm)

/-! ## Replies -/

theorem Reply.fault?_eq_none_iff {r : Reply} : r.fault? = none ↔ r.IsReadable ∧ r.serverError? = none := by
  by_cases h : r.IsReadable
  · rw [Reply.fault?_of_isReadable h, Option.map_eq_none_iff, and_iff_right h]
  · rw [Reply.fault?_of_not_isReadable h]
    simp [h]

/-- the rows arrive, and the first cell that does not decode is one of single floats -/
def Reply.IsBreaking (r : Reply) : Prop :=
  r.IsReadable ∧ r.serverError? = none ∧
    ∃ i j c bytes, FirstUndecoded r.columns r.sentRows i j (c, some bytes) ∧ c.type = .float

theorem Reply.rows_eq_crash_iff {r : Reply} :
    r.rows = .error .crash ↔
      ∃ i j c bytes, FirstUndecoded r.columns r.sentRows i j (c, some bytes) ∧ c.type = .float := by
  rw [Reply.rows_eq, rows_eq_error_iff]
  constructor
  · rintro ⟨i, j, ⟨c, cell⟩, hfirst, he⟩
    obtain ⟨fault, hcol, -⟩ | ⟨-, hcrash⟩ := member_error he
    · cases hcol
    · obtain ⟨hf, bytes, rfl⟩ := decodeCell_eq_crash_iff.1 hcrash
      exact ⟨i, j, c, bytes, hfirst, hf⟩
  · rintro ⟨i, j, c, bytes, hfirst, hf⟩
    have hcrash : decodeCell c (some bytes) = .crash := decodeCell_eq_crash_iff.2 ⟨hf, bytes, rfl⟩
    exact ⟨i, j, (c, some bytes), hfirst, by simp only [member, hcrash]⟩

theorem execute_of_isBreaking {r : Reply} (h : r.IsBreaking) : execute .select r = .crashed := by
  obtain ⟨hread, hsent, hfirst⟩ := h
  have hfault : r.fault? = none := Reply.fault?_eq_none_iff.2 ⟨hread, hsent⟩
  have hrows : r.rows = .error .crash := Reply.rows_eq_crash_iff.2 hfirst
  rw [execute, hfault]
  simp only [if_true, hrows, selected]

theorem execute_cases (kind : Kind) (r : Reply) :
    (∃ rs, execute kind r = .done rs) ∨ (∃ cause, execute kind r = .failed (.execution cause)) ∨
      kind = .select ∧ r.IsBreaking := by
  rw [execute]
  cases hfault : r.fault? with
  | some cause => exact .inr (.inl ⟨cause, rfl⟩)
  | none =>
    by_cases hkind : kind = .select
    · rw [if_pos hkind]
      cases hrows : r.rows with
      | ok rows => exact .inl ⟨_, rfl⟩
      | error e =>
        cases e with
        | column index fault => exact .inr (.inl ⟨_, rfl⟩)
        | crash =>
          obtain ⟨hread, hsent⟩ := Reply.fault?_eq_none_iff.1 hfault
          exact .inr (.inr ⟨hkind, hread, hsent, Reply.rows_eq_crash_iff.1 hrows⟩)
    · rw [if_neg hkind]
      exact .inl ⟨_, rfl⟩

/-- **Who is answered.** The gateway gives a result or an execution error for every kind of statement and every reply of
the server, except for a SELECT of which the first cell that does not decode is one of single floats: there it breaks
down. -/
theorem answers_iff (kind : Kind) (text : String) (r : Reply) (replies : List Reply) :
    let outcome := (gateway.execute kind text (r :: replies)).1
    (((∃ rs, outcome = .done rs) ∨ ∃ cause, outcome = .failed (.execution cause)) ↔
      ¬ (kind = .select ∧ r.IsBreaking)) ∧
    (outcome = .crashed ↔ kind = .select ∧ r.IsBreaking) := by
  intro outcome
  have houtcome : outcome = execute kind r := rfl
  rw [houtcome]
  have hcrashed : kind = .select ∧ r.IsBreaking → execute kind r = .crashed := by
    rintro ⟨rfl, hbreaking⟩
    exact execute_of_isBreaking hbreaking
  obtain ⟨rs, hdone⟩ | ⟨cause, hfailed⟩ | hbreaking := execute_cases kind r
  · have hnot : ¬ (kind = .select ∧ r.IsBreaking) := fun h => by cases hdone.symm.trans (hcrashed h)
    simp [hdone, hnot]
  · have hnot : ¬ (kind = .select ∧ r.IsBreaking) := fun h => by cases hfailed.symm.trans (hcrashed h)
    simp [hfailed, hnot]
  · rw [hcrashed hbreaking]
    simp [hbreaking]

/-- the single float 1.5, the only cell of its reply, breaks the gateway down -/
theorem single_not_answered :
    let reply : Reply := .table [⟨"ratio", none, .float, 63, 0⟩] [[some [0x00, 0x00, 0xC0, 0x3F]]] none
    let outcome := (gateway.execute .select "SELECT ratio FROM t" [reply]).1
    outcome = .crashed ∧ ¬ ((∃ rs, outcome = .done rs) ∨ ∃ cause, outcome = .failed (.execution cause)) := by
  intro reply outcome
  have hcrashed : outcome = .crashed := rfl
  refine ⟨hcrashed, ?_⟩
  rintro (⟨rs, hrs⟩ | ⟨cause, hcause⟩)
  · rw [hcrashed] at hrs
    cases hrs
  · rw [hcrashed] at hcause
    cases hcause

end FluentSql.MySql
