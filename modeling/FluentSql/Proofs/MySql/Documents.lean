/-
JSON documents that are written into a statement and read from a column.

- `isPlain_of_decodeCell`: whatever the cell, no object of the value begins with the name of embedded texts.
- `document_exact_iff`: a document without floats, with different names in each object and fewer than 128 brackets open at
  once is read as it was written exactly if none of its objects begins with that name.
- `embedded_document_lost`: an object with that name is read as the value that its string spells.
-/
import FluentSql.Literal
import FluentSql.Proofs.Json.Embedded
import FluentSql.Proofs.Json.RoundTrip
import FluentSql.Proofs.MySql.Cells

namespace FluentSql.MySql

open FluentSql.Text

theorem isPlain_of_decodeCell {c : Column} (hc : c.type = .json) {s : String} {j : Json}
    (h : decodeCell c (some (Utf8.encode s)) = .value j) : j.all Json.isPlain = true := by
  rw [decodeCell_json hc, Decoded.value.injEq] at h
  cases hparse : Json.parse s with
  | ok v =>
    rw [hparse] at h
    obtain rfl : v = j := h
    exact Json.isPlain_of_parse hparse
  | error e =>
    rw [hparse] at h
    obtain rfl : Json.text s = j := h
    rfl

/-- **Written, then read.** The text of a JSON literal, in a column of JSON documents: of a value without floats, in whose
objects no name comes twice and which is less than 128 brackets deep, that very value is read, with the members of
objects in their order, exactly if no object begins with the reserved name. -/
theorem document_exact_iff {c : Column} (hc : c.type = .json) (place : Literal.Place) {j : Json}
    (hfloat : j.all (fun v => !v.isFloat) = true) (hnames : j.all Json.hasDistinctNames = true) (hdepth : j.depth < 128) :
    decodeCell c (some (Utf8.encode ((Literal.json j).render place))) = .value j ↔ j.all Json.isPlain = true := by
  constructor
  · exact isPlain_of_decodeCell hc
  · intro hplain
    have hwritable : j.all Json.isWritable = true := by
      rw [Json.all_isWritable, hfloat, hnames, hplain]
      rfl
    have hparse : Json.parse j.compact = .ok j := Json.parse_compact hwritable (Nat.le_of_lt_succ hdepth)
    rw [decodeCell_json hc, Literal.render, hparse]
    rfl

/-- quotes, a control character, integers at both ends, and members in no order -/
theorem document_exact_of_members :
    let c : Column := ⟨"doc", none, .json, 63, 0⟩
    let j : Json := .object [("z", .array [.int ⟨-0x8000000000000000, by decide, by decide⟩,
      .int ⟨0xFFFFFFFFFFFFFFFF, by decide, by decide⟩]), ("say \"hi\"\\", .text "\x01\n\u00e9"), ("a", .object [("", .null)])]
    c.type = .json ∧ j.all (fun v => !v.isFloat) = true ∧ j.all Json.hasDistinctNames = true ∧ j.depth < 128 ∧
      decodeCell c (some (Utf8.encode ((Literal.json j).render .set))) = .value j := by
  intro c j
  have hnames : j.all Json.hasDistinctNames = true := by decide
  have hdepth : j.depth < 128 := by decide
  exact ⟨rfl, rfl, hnames, hdepth, (document_exact_iff rfl .set rfl hnames hdepth).2 (by decide)⟩

/-- an object whose only member has the reserved name is read as what its string spells -/
theorem embedded_document_lost :
    let c : Column := ⟨"doc", none, .json, 63, 0⟩
    let j : Json := .object [("$serde_json::private::RawValue", .text "[true]")]
    let cell : Cell := some (Utf8.encode ((Literal.json j).render .values))
    j.all (fun v => !v.isFloat) = true ∧ j.all Json.hasDistinctNames = true ∧ j.depth < 128 ∧
      decodeCell c cell = .value (.array [.bool true]) ∧ decodeCell c cell ≠ .value j := by
  intro c j cell
  have hparse : Json.parse j.compact = .ok (.array [.bool true]) := by cbv
  have hread : decodeCell c cell = .value (.array [.bool true]) := by
    rw [decodeCell_json rfl, Literal.render, hparse]
    rfl
  refine ⟨rfl, by decide, by decide, hread, fun h => ?_⟩
  rw [hread] at h
  exact Json.noConfusion (Decoded.value.inj h)

end FluentSql.MySql
