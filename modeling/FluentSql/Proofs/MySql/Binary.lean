/-
Cells of byte strings.

The reading of JSON documents is tried on them before the reading of bytes, so that the content decides: bytes that spell
a document are read as that document, all others as the array of their numbers (`decodeCell_binary`).
- `binary_exact_iff`: bytes are read as themselves exactly if they spell no document.
- `bytes_spelling_documents`: bytes that are read as null, and different bytes that are read alike.
-/
import FluentSql.Proofs.Json.Extent
import FluentSql.Proofs.MySql.Cells

namespace FluentSql.MySql

open FluentSql.Text

/-! ## Bytes -/

/-- byte strings: the reading of texts does not apply, that of bytes does -/
def Column.isBinary (c : Column) : Bool := c.type.isString && !c.isText

/-- the bytes as numbers from 0 to 255, in their order -/
def byteArray (bytes : List UInt8) : Json := .array (bytes.map fun b => .int (.ofUInt8 b))

theorem byteArray_injective {bytes bytes' : List UInt8} (h : byteArray bytes = byteArray bytes') : bytes = bytes' := by
  refine List.map_injective_iff.2 (fun a b hab => ?_) (Json.array.inj h)
  have hnumber : (a.toNat : Int) = b.toNat := congrArg WordInt.val (Json.int.inj hab)
  exact UInt8.toNat_inj.1 (Int.ofNat.inj hnumber)

/-- the JSON document that the bytes spell, if they spell one -/
def document? (bytes : List UInt8) : Option Json :=
  (Utf8.decode bytes).toOption.bind fun s => (Json.parse s).toOption

/-- a text that spells an array is longer than the array, so none spells that of its own bytes -/
theorem document?_ne_byteArray (bytes : List UInt8) : document? bytes ≠ some (byteArray bytes) := by
  intro h
  obtain ⟨s, hs, hparse⟩ := Option.bind_eq_some_iff.1 h
  have hlong := Json.extent_le_of_parse (ok_of_toOption hparse)
  have hshort := Utf8.length_le_of_decode (ok_of_toOption hs)
  rw [byteArray, Json.extent, List.length_map] at hlong
  omega

/-! ## Cells -/

/-- the readings that apply to byte strings, in the order in which they are tried -/
theorem findSome?_of_isBinary {c : Column} (hc : c.isBinary = true) (bytes : List UInt8) :
    (Reading.all.findSome? fun r => r c bytes) = (Reading.document c bytes).or (Reading.bytes c bytes) := by
  obtain ⟨hstring, hnot⟩ := Bool.and_eq_true_iff.1 hc
  have htext : c.isText = false := by simpa using hnot
  obtain ⟨hdated, hinteger, hbit, hyear, hdouble, hfloat⟩ := ColumnType.of_isString hstring
  have hdatetime : c.type ≠ .datetime := fun h => by simp [h, ColumnType.isString] at hstring
  have hdate : c.type ≠ .date := fun h => by simp [h, ColumnType.isString] at hstring
  have htime : c.type ≠ .time := fun h => by simp [h, ColumnType.isString] at hstring
  have hsigned : Reading.signed c bytes = none := by simp [Reading.signed, hinteger]
  have hunsigned : Reading.unsigned c bytes = none := by simp [Reading.unsigned, hinteger, hbit, hyear]
  have hnodouble : Reading.double c bytes = none := by simp [Reading.double, hdouble, hfloat]
  have hsecond : (Reading.all.findSome? fun r => r c bytes) =
      [Reading.document, Reading.bytes].findSome? fun r => r c bytes := by
    simp [Reading.all, List.findSome?_cons, hsigned, hunsigned, hnodouble, Reading.single_unreached hnodouble,
      Reading.text, Reading.datetime, Reading.date, Reading.time, htext, hdatetime, hdate, htime]
  rw [hsecond]
  cases hdocument : Reading.document c bytes <;> cases hbytes : Reading.bytes c bytes <;>
    simp [hdocument, hbytes]

theorem document_eq {c : Column} (hc : c.type.isString = true) (bytes : List UInt8) :
    Reading.document c bytes = (document? bytes).map Decoded.value := by
  rw [Reading.document, hc, Bool.or_true, if_pos rfl, document?]
  cases Utf8.decode bytes with
  | error fault => rfl
  | ok s => cases hparse : Json.parse s <;> simp [Except.toOption, hparse]

/-- what the bytes spell goes before what they are -/
theorem decodeCell_binary {c : Column} (hc : c.isBinary = true) (bytes : List UInt8) :
    decodeCell c (some bytes) = .value ((document? bytes).getD (byteArray bytes)) := by
  have hstring : c.type.isString = true := (Bool.and_eq_true_iff.1 hc).1
  have hdated : c.type.isDated = false := (ColumnType.of_isString hstring).1
  have hbytes : Reading.bytes c bytes = some (.value (byteArray bytes)) := if_pos hstring
  rw [decodeCell, hdated, Bool.false_and, if_neg (by decide), findSome?_of_isBinary hc, document_eq hstring, hbytes]
  cases document? bytes <;> rfl

/-- what comes of bytes in a column of byte strings -/
structure ReadsBinary (c : Column) (bytes : List UInt8) : Prop where
  /-- they are read as themselves exactly if they spell no document -/
  exact_iff : decodeCell c (some bytes) = .value (byteArray bytes) ↔ document? bytes = none
  /-- they are read as null, as NULL is, exactly if they spell it -/
  null_iff : decodeCell c (some bytes) = .value .null ↔ document? bytes = some .null
  /-- if they spell no document, then other bytes that are read like them spell the array of their numbers -/
  alike_iff : document? bytes = none → ∀ bytes',
    decodeCell c (some bytes') = decodeCell c (some bytes) ↔ bytes' = bytes ∨ document? bytes' = some (byteArray bytes)

/-- **Byte strings.** In a column of byte strings, bytes that spell no document, and they alone, are read as the array of
their numbers; no two of them are read alike, and none as null. -/
theorem binary_exact_iff {c : Column} (hc : c.isBinary = true) (bytes : List UInt8) : ReadsBinary c bytes where
  exact_iff := by
    rw [decodeCell_binary hc, Decoded.value.injEq]
    constructor
    · intro hread
      cases hspelled : document? bytes with
      | none => rfl
      | some j =>
        rw [hspelled] at hread
        obtain rfl : j = byteArray bytes := hread
        exact absurd hspelled (document?_ne_byteArray bytes)
    · intro hnone
      rw [hnone]
      rfl
  null_iff := by
    rw [decodeCell_binary hc, Decoded.value.injEq]
    cases document? bytes with
    | none => simp [byteArray]
    | some j => simp
  alike_iff := by
    intro hnone bytes'
    rw [decodeCell_binary hc, decodeCell_binary hc, Decoded.value.injEq, hnone, Option.getD_none]
    constructor
    · intro halike
      cases hspelled : document? bytes' with
      | none =>
        rw [hspelled] at halike
        exact .inl (byteArray_injective halike)
      | some j =>
        rw [hspelled] at halike
        exact .inr (congrArg some halike)
    · rintro (rfl | hspelled)
      · rw [hnone]
        rfl
      · rw [hspelled]
        rfl

/-- a text that begins like an array and is not closed -/
theorem binary_exact_of_unclosed :
    let c : Column := ⟨"c", none, .varString, 63, 0⟩
    let bytes : List UInt8 := [0x5B, 0x31, 0x2C, 0x32]
    c.isBinary = true ∧ decodeCell c (some bytes) = .value (byteArray bytes) := by
  intro c bytes
  have hnone : document? bytes = none := rfl
  exact ⟨rfl, (binary_exact_iff rfl bytes).exact_iff.2 hnone⟩

/-- four letters are read as null, a digit with and without a blank before it as one number, and five characters as the
array of another byte -/
theorem bytes_spelling_documents :
    let c : Column := ⟨"c", none, .blob, 63, 0⟩
    c.isBinary = true ∧
      decodeCell c (some [0x6E, 0x75, 0x6C, 0x6C]) = .value .null ∧
      decodeCell c (some [0x31]) = decodeCell c (some [0x20, 0x31]) ∧
      decodeCell c (some [0x5B, 0x32, 0x35, 0x35, 0x5D]) = decodeCell c (some [0xFF]) ∧
      decodeCell c (some [0x31]) ≠ .value (byteArray [0x31]) := by
  intro c
  have hnull : document? [0x6E, 0x75, 0x6C, 0x6C] = some .null := rfl
  have hdigit : document? [0x31] = some (.int ⟨1, by decide, by decide⟩) := rfl
  have hblank : document? [0x20, 0x31] = some (.int ⟨1, by decide, by decide⟩) := rfl
  have harray : document? [0x5B, 0x32, 0x35, 0x35, 0x5D] = some (byteArray [0xFF]) := rfl
  have hbyte : document? [0xFF] = none := rfl
  have hc : c.isBinary = true := rfl
  rw [decodeCell_binary hc, decodeCell_binary hc, decodeCell_binary hc, decodeCell_binary hc, decodeCell_binary hc,
    hnull, hdigit, hblank, harray, hbyte]
  exact ⟨hc, rfl, rfl, rfl, fun h => Json.noConfusion (Decoded.value.inj h)⟩

end FluentSql.MySql
