/-
Rows of a result that are read by a decoder, all of them or the first.

- `decodeRows_append`: rows behind rows are read one part after the other.
- `decodeFirst_append`, `decodeFirst_of_decodeRows`: rows behind the first do not count for it, and a list of all rows
  begins with it.
- `rows_read`: what both give for every decoder and every result; a row that does not decode stops the reading of all
  rows, and is passed on as an error of serialization, but does not stop the reading of a row in front of it.
-/
import FluentSql.ResultSet
import FluentSql.Proofs.Traversal

namespace FluentSql.ResultSet

/-! ## Decoders -/

section

variable {α : Type} (read : Json → Except Json.Rejection α) (row : Row)

theorem ofReader_eq_ok_iff (x : α) : ofReader read row = .ok x ↔ read (.object row) = .ok x := by
  unfold ofReader
  cases read (.object row) <;> simp [Except.mapError]

theorem ofReader_eq_error_iff (e : Error) :
    ofReader read row = .error e ↔ ∃ cause, read (.object row) = .error cause ∧ e = .serialization cause := by
  unfold ofReader
  cases read (.object row) with
  | ok x => simp [Except.mapError]
  | error cause => simp [Except.mapError, eq_comm]

end

/-! ## All rows and the first -/

section

variable {α ε : Type} (decode : Row → Except ε α)

/-- the counters do not count, and rows behind rows are read one part after the other -/
theorem decodeRows_append {r s t : ResultSet} (ht : t.rows = r.rows ++ s.rows) :
    decodeRows decode t = (do
      let xs ← decodeRows decode r
      let ys ← decodeRows decode s
      return xs ++ ys) := by
  unfold decodeRows
  rw [ht]
  exact List.mapM_append

theorem decodeRows_singleton {t : ResultSet} {row : Row} (ht : t.rows = [row]) :
    decodeRows decode t = (decode row).map fun x => [x] := by
  unfold decodeRows
  rw [ht, List.mapM_cons]
  cases decode row <;> rfl

theorem decodeFirst_cons {r : ResultSet} {row : Row} {rest : List Row} (hr : r.rows = row :: rest) :
    decodeFirst decode r = (decode row).map some := by
  unfold decodeFirst
  rw [hr]

theorem decodeFirst_nil {r : ResultSet} (hr : r.rows = []) : decodeFirst decode r = .ok none := by
  unfold decodeFirst
  rw [hr]

theorem decodeFirst_eq_none_iff (r : ResultSet) : decodeFirst decode r = .ok none ↔ r.rows = [] := by
  cases hr : r.rows with
  | nil => simp [decodeFirst_nil decode hr]
  | cons row rest =>
    rw [decodeFirst_cons decode hr]
    cases decode row <;> simp [Except.map]

/-- what all rows begin with, if they decode -/
theorem decodeFirst_of_decodeRows {r : ResultSet} {xs : List α} (h : decodeRows decode r = .ok xs) :
    decodeFirst decode r = .ok xs.head? := by
  have hall := (mapM_eq_ok_iff decode).1 h
  cases hr : r.rows with
  | nil =>
    rw [hr, List.forall₂_nil_left_iff] at hall
    rw [decodeFirst_nil decode hr, hall]
    rfl
  | cons row rest =>
    rw [hr, List.forall₂_cons_left_iff] at hall
    obtain ⟨x, xs, hx, -, rfl⟩ := hall
    rw [decodeFirst_cons decode hr, hx]
    rfl

/-- rows behind the first do not count for it -/
theorem decodeFirst_append {r s t : ResultSet} (ht : t.rows = r.rows ++ s.rows) (hr : r.rows ≠ []) :
    decodeFirst decode t = decodeFirst decode r := by
  obtain ⟨row, rest, hrows⟩ := List.exists_cons_of_ne_nil hr
  have hboth : t.rows = row :: (rest ++ s.rows) := by rw [ht, hrows, List.cons_append]
  rw [decodeFirst_cons decode hboth, decodeFirst_cons decode hrows]

end

/-! ## Every decoder -/

/-- how a decoder reads the rows of a result, and of one with further rows behind them -/
structure RowsRead {α ε : Type} (decode : Row → Except ε α) (r s : ResultSet) : Prop where
  /-- both parts decode -/
  both : ∀ t : ResultSet, t.rows = r.rows ++ s.rows → ∀ xs ys, decodeRows decode r = .ok xs →
    decodeRows decode s = .ok ys → decodeRows decode t = .ok (xs ++ ys)
  /-- the rows in front do not decode -/
  front : ∀ t : ResultSet, t.rows = r.rows ++ s.rows → ∀ e, decodeRows decode r = .error e →
    decodeRows decode t = .error e
  /-- only the rows behind do not decode -/
  back : ∀ t : ResultSet, t.rows = r.rows ++ s.rows → ∀ xs e, decodeRows decode r = .ok xs →
    decodeRows decode s = .error e → decodeRows decode t = .error e
  /-- there is a list if every row decodes -/
  succeeds_iff : (∃ xs, decodeRows decode r = .ok xs) ↔ ∀ row ∈ r.rows, ∃ x, decode row = .ok x
  /-- of an item for each row, in the order of the rows -/
  items_iff : ∀ xs, decodeRows decode r = .ok xs ↔ List.Forall₂ (fun row x => decode row = .ok x) r.rows xs
  /-- or else the error of the first row that does not decode -/
  fails_iff : ∀ e, decodeRows decode r = .error e ↔
    ∃ (n : Nat) (row : Row), r.rows[n]? = some row ∧ decode row = .error e ∧
      ∀ m < n, ∀ row', r.rows[m]? = some row' → ∃ x, decode row' = .ok x
  first_none_iff : decodeFirst decode r = .ok none ↔ r.rows = []
  /-- the first row is read as the only row of a result -/
  first_alone : ∀ row rest, r.rows = row :: rest → ∀ t : ResultSet, t.rows = [row] →
    (∀ x, decodeFirst decode r = .ok (some x) ↔ decodeRows decode t = .ok [x]) ∧
      ∀ e, decodeFirst decode r = .error e ↔ decodeRows decode t = .error e
  first_of_rows : ∀ xs, decodeRows decode r = .ok xs → decodeFirst decode r = .ok xs.head?
  /-- and is read although a later row does not decode -/
  first_apart : ∀ t : ResultSet, t.rows = r.rows ++ s.rows → ∀ x e, decodeFirst decode r = .ok (some x) →
    decodeRows decode s = .error e → decodeFirst decode t = .ok (some x) ∧ ∃ e', decodeRows decode t = .error e'

/-- **Rows.** Of two results with any rows, for any decoder: the rows of the one and behind them those of the other decode
to both lists in a row, or to the error of the first part, or else to that of the second. There is an item for each row in
their order if all decode; otherwise there is no list but the error of the first row that does not, which is one of
serialization. The first row is read as if it were alone, and there is none only of a result without rows. -/
theorem rows_read {α ε : Type} (decode : Row → Except ε α) (r s : ResultSet) :
    RowsRead decode r s ∧
      ∀ (read : Json → Except Json.Rejection α) (e : Error), decodeRows (ofReader read) r = .error e ↔
        ∃ (n : Nat) (row : Row) (cause : Json.Rejection), r.rows[n]? = some row ∧ read (.object row) = .error cause ∧
          e = .serialization cause ∧ ∀ m < n, ∀ row', r.rows[m]? = some row' → ∃ x, read (.object row') = .ok x := by
  constructor
  · constructor
    case both =>
      intro t ht xs ys hxs hys
      rw [decodeRows_append decode ht, hxs, hys]
      rfl
    case front =>
      intro t ht e he
      rw [decodeRows_append decode ht, he]
      rfl
    case back =>
      intro t ht xs e hxs he
      rw [decodeRows_append decode ht, hxs, he]
      rfl
    case succeeds_iff =>
      constructor
      · rintro ⟨xs, hxs⟩ row hrow
        exact exists_ok_of_mem decode hxs hrow
      · intro h
        obtain ⟨xs, hxs, -⟩ := exists_mapM_eq_ok decode fun row hrow =>
          (h row hrow).imp fun x hx => ⟨hx, show decode row = .ok x from hx⟩
        exact ⟨xs, hxs⟩
    case items_iff => exact fun xs => mapM_eq_ok_iff decode
    case fails_iff => exact fun e => mapM_eq_error_iff decode
    case first_none_iff => exact decodeFirst_eq_none_iff decode r
    case first_alone =>
      intro row rest hr t ht
      rw [decodeFirst_cons decode hr, decodeRows_singleton decode ht]
      cases decode row <;> simp [Except.map]
    case first_of_rows => exact fun xs => decodeFirst_of_decodeRows decode
    case first_apart =>
      intro t ht x e hx he
      have hr : r.rows ≠ [] := by
        intro hnil
        rw [decodeFirst_nil decode hnil] at hx
        cases hx
      refine ⟨(decodeFirst_append decode ht hr).trans hx, ?_⟩
      rw [decodeRows_append decode ht, he]
      cases decodeRows decode r with
      | ok xs => exact ⟨e, rfl⟩
      | error e' => exact ⟨e', rfl⟩
  · intro read e
    have hfails := mapM_eq_error_iff (ofReader read) (l := r.rows) (e := e)
    simp only [ofReader_eq_ok_iff, ofReader_eq_error_iff] at hfails
    refine hfails.trans ⟨?_, ?_⟩
    · rintro ⟨n, row, hrow, ⟨cause, hcause, he⟩, hok⟩
      exact ⟨n, row, cause, hrow, hcause, he, hok⟩
    · rintro ⟨n, row, cause, hrow, hcause, he, hok⟩
      exact ⟨n, row, hrow, ⟨cause, hcause, he⟩, hok⟩

/-- the first of two rows, the second of which holds no integer -/
example :
    let t : ResultSet := ⟨0, none, [[("id", .int (.ofUInt8 1))], [("id", .text "x")]]⟩
    let decode := ofShape (.sortedMap (.word .int64))
    decodeFirst decode t = .ok (some (.object [("id", .int (.ofUInt8 1))])) ∧
      decodeRows decode t = .error (.serialization (.mismatch (.wrongType (.text "x") (.word .int64)))) := ⟨rfl, rfl⟩

end FluentSql.ResultSet
