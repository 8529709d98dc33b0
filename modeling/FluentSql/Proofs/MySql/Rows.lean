/-
Rows of a reply, cell by cell.

Only a column of single floats can break down (`decodeCell_ne_crash`). A row is what its cells make:
- `decodeRow_eq`: each cell makes a member, and they are put together in their order.
- `value_of_decodeRow`, `fault_of_decodeRow`: a row decodes only if all its cells do, and else its fault is that of the
  first cell that does not.
-/
import FluentSql.MySql.Decode
import FluentSql.Proofs.Traversal

namespace FluentSql.MySql

/-! ## Cells -/

/-- only the reading of floats breaks down, on single ones -/
theorem Reading.ne_crash {c : Column} (h : c.type ≠ .float) (bytes : List UInt8) {r : Reading} (hr : r ∈ Reading.all) :
    r c bytes ≠ some .crash := by
  simp only [all, List.mem_cons, List.not_mem_nil, or_false] at hr
  rcases hr with rfl | rfl | rfl | rfl | rfl | rfl | rfl | rfl | rfl | rfl
  · unfold signed; split_ifs <;> simp
  · unfold unsigned; split_ifs <;> simp
  · unfold double; rw [if_neg h]; split_ifs <;> simp
  · unfold single; rw [if_neg (by simp [h])]; simp
  · unfold text; split_ifs <;> simp
  · unfold document; split_ifs <;> simp [Option.bind_eq_some_iff]
  · unfold datetime; split_ifs <;> simp
  · unfold date; split_ifs <;> simp
  · unfold time; split_ifs <;> simp
  · unfold Reading.bytes; split_ifs <;> simp

theorem decodeCell_ne_crash {c : Column} (h : c.type ≠ .float) (cell : Cell) : decodeCell c cell ≠ .crash := by
  cases cell with
  | none => simp [decodeCell]
  | some bytes =>
    intro hd
    rw [decodeCell] at hd
    split_ifs at hd
    cases hr : Reading.all.findSome? fun r => r c bytes with
    | some d =>
      obtain ⟨r, hmem, hrd⟩ := List.exists_of_findSome?_eq_some hr
      rw [hr, Option.getD_some] at hd
      exact Reading.ne_crash h bytes hmem (hrd.trans (congrArg some hd))
    | none =>
      rw [hr, Option.getD_none, plainText] at hd
      split at hd <;> cases hd

/-! ## Rows -/

/-- the member of a row that cell number `n` makes -/
def member (n : Nat) (p : Column × Cell) : Except RowFault (String × Json) :=
  match decodeCell p.1 p.2 with
  | .value j => .ok (p.1.key, j)
  | .notText fault => .error (.column n fault)
  | .crash => .error .crash

theorem decodeCells_eq (index : Nat) (row : Members Json) (cells : List (Column × Cell)) :
    decodeCells index row cells =
      ((cells.zipIdx index).mapM fun p => member p.2 p.1).map (List.foldl (fun ms q => ms.put q.1 q.2) row) := by
  induction cells generalizing index row with
  | nil => rfl
  | cons p cells ih =>
    rw [decodeCells, List.zipIdx_cons]
    cases hp : decodeCell p.1 p.2 with
    | value j =>
      rw [mapM_cons_ok (b := (p.1.key, j)) _ (by simp only [member, hp])]
      simp only [ih]
      cases (cells.zipIdx (index + 1)).mapM fun p => member p.2 p.1 <;> rfl
    | notText fault =>
      rw [mapM_cons_error (e := .column index fault) _ (by simp only [member, hp])]
      rfl
    | crash =>
      rw [mapM_cons_error (e := .crash) _ (by simp only [member, hp])]
      rfl

/-- **One row.** Its cells make a member each, in their order, and its first fault is theirs. -/
theorem decodeRow_eq (columns : List Column) (cells : List Cell) :
    decodeRow columns cells = ((columns.zip cells).zipIdx.mapM fun p => member p.2 p.1).map Members.ofPairs :=
  decodeCells_eq 0 [] (columns.zip cells)

theorem member_ok {n : Nat} {p : Column × Cell} {q : String × Json} (h : member n p = .ok q) :
    ∃ j, decodeCell p.1 p.2 = .value j := by
  unfold member at h
  cases hp : decodeCell p.1 p.2 with
  | value j => exact ⟨j, rfl⟩
  | notText fault => rw [hp] at h; cases h
  | crash => rw [hp] at h; cases h

theorem member_error {n : Nat} {p : Column × Cell} {e : RowFault} (h : member n p = .error e) :
    (∃ fault, e = .column n fault ∧ decodeCell p.1 p.2 = .notText fault) ∨ e = .crash ∧ decodeCell p.1 p.2 = .crash := by
  unfold member at h
  cases hp : decodeCell p.1 p.2 with
  | value j => rw [hp] at h; cases h
  | notText fault =>
    rw [hp] at h
    exact .inl ⟨fault, (Except.error.inj h).symm, rfl⟩
  | crash =>
    rw [hp] at h
    exact .inr ⟨(Except.error.inj h).symm, rfl⟩

/-- all cells of a row that decodes do -/
theorem value_of_decodeRow {columns : List Column} {cells : List Cell} {row : Members Json}
    (h : decodeRow columns cells = .ok row) (n : Nat) (p : Column × Cell) (hp : (columns.zip cells)[n]? = some p) :
    ∃ j, decodeCell p.1 p.2 = .value j := by
  rw [decodeRow_eq] at h
  cases hm : (columns.zip cells).zipIdx.mapM fun p => member p.2 p.1 with
  | error e => rw [hm] at h; cases h
  | ok members =>
    obtain ⟨q, hq⟩ := exists_ok_of_mem _ hm (List.mk_mem_zipIdx_iff_getElem?.2 hp)
    exact member_ok hq

/-- a row fails with its first cell that does not decode -/
theorem decodeRow_eq_error_iff {columns : List Column} {cells : List Cell} {e : RowFault} :
    decodeRow columns cells = .error e ↔
      ∃ n c cell, columns[n]? = some c ∧ cells[n]? = some cell ∧ member n (c, cell) = .error e ∧
        ∀ m < n, ∀ p, (columns.zip cells)[m]? = some p → ∃ j, decodeCell p.1 p.2 = .value j := by
  have hmap (x : Except RowFault (List (String × Json))) : x.map Members.ofPairs = .error e ↔ x = .error e := by
    cases x <;> simp [Except.map]
  rw [decodeRow_eq, hmap, mapM_eq_error_iff]
  constructor
  · rintro ⟨n, ⟨⟨c, cell⟩, n'⟩, hn, he, hleft⟩
    rw [List.getElem?_zipIdx, Option.map_eq_some_iff] at hn
    obtain ⟨p, hp, hpn⟩ := hn
    obtain ⟨rfl, rfl⟩ := Prod.mk.inj hpn
    obtain ⟨hc, hcell⟩ := List.getElem?_zip_eq_some.1 hp
    refine ⟨n, c, cell, hc, hcell, by rwa [Nat.zero_add] at he, fun m hlt q hq => ?_⟩
    obtain ⟨r, hr⟩ := hleft m hlt (q, 0 + m) (by rw [List.getElem?_zipIdx, hq]; rfl)
    exact member_ok hr
  · rintro ⟨n, c, cell, hc, hcell, he, hleft⟩
    have hp : (columns.zip cells)[n]? = some (c, cell) := List.getElem?_zip_eq_some.2 ⟨hc, hcell⟩
    refine ⟨n, ((c, cell), 0 + n), by rw [List.getElem?_zipIdx, hp]; rfl, by rwa [Nat.zero_add], ?_⟩
    rintro m hlt ⟨q, m'⟩ hq
    rw [List.getElem?_zipIdx, Option.map_eq_some_iff] at hq
    obtain ⟨q', hq', hqm⟩ := hq
    obtain ⟨rfl, rfl⟩ := Prod.mk.inj hqm
    obtain ⟨j, hj⟩ := hleft m hlt q' hq'
    exact ⟨(q'.1.key, j), by simp only [member, hj]⟩

/-- the fault of a row is that of its first cell that does not decode -/
theorem fault_of_decodeRow {columns : List Column} (hfloat : ∀ c ∈ columns, c.type ≠ .float) {cells : List Cell}
    {e : RowFault} (h : decodeRow columns cells = .error e) :
    ∃ n c cell fault, e = .column n fault ∧ columns[n]? = some c ∧ cells[n]? = some cell ∧
      decodeCell c cell = .notText fault ∧
      ∀ m < n, ∀ p, (columns.zip cells)[m]? = some p → ∃ j, decodeCell p.1 p.2 = .value j := by
  obtain ⟨n, c, cell, hc, hcell, he, hleft⟩ := decodeRow_eq_error_iff.1 h
  obtain ⟨fault, rfl, hd⟩ | ⟨-, hcrash⟩ := member_error he
  · exact ⟨n, c, cell, fault, rfl, hc, hcell, hd, hleft⟩
  · exact absurd hcrash (decodeCell_ne_crash (hfloat c (List.mem_of_getElem? hc)) cell)

/-- a row decodes if all its cells do -/
theorem exists_decodeRow_iff {columns : List Column} {cells : List Cell} :
    (∃ row, decodeRow columns cells = .ok row) ↔
      ∀ (n : Nat) (p : Column × Cell), (columns.zip cells)[n]? = some p → ∃ j, decodeCell p.1 p.2 = .value j := by
  constructor
  · rintro ⟨row, hrow⟩ n p hp
    exact value_of_decodeRow hrow n p hp
  · intro h
    cases hrow : decodeRow columns cells with
    | ok row => exact ⟨row, rfl⟩
    | error e =>
      obtain ⟨n, c, cell, hc, hcell, he, -⟩ := decodeRow_eq_error_iff.1 hrow
      obtain ⟨j, hj⟩ := h n (c, cell) (List.getElem?_zip_eq_some.2 ⟨hc, hcell⟩)
      rw [member, hj] at he
      cases he

/-- the name and the value that a cell gives to its row -/
def Makes (p : Column × Cell) (q : String × Json) : Prop := q.1 = p.1.key ∧ decodeCell p.1 p.2 = .value q.2

theorem decodeCells_of_makes {cells : List (Column × Cell)} {pairs : List (String × Json)}
    (h : List.Forall₂ Makes cells pairs) (index : Nat) (row : Members Json) :
    decodeCells index row cells = .ok (pairs.foldl (fun ms q => ms.put q.1 q.2) row) := by
  induction h generalizing index row with
  | nil => rfl
  | cons hpq _ ih =>
    rw [decodeCells, hpq.2, List.foldl_cons, hpq.1]
    exact ih (index + 1) _

theorem decodeRow_of_makes {columns : List Column} {cells : List Cell} {pairs : List (String × Json)}
    (h : List.Forall₂ Makes (columns.zip cells) pairs) : decodeRow columns cells = .ok (Members.ofPairs pairs) :=
  decodeCells_of_makes h 0 []

end FluentSql.MySql
