/-
Cells that are read back as what was written into them.

- `decodeCell_integer`: integers of a column's width, in two's complement or without a sign, low byte first.
- `decodeCell_decimal`, `decodeCell_text`: characters, as they stand, whatever they spell.
- `decodeCell_json`: a column of JSON documents is read by the JSON reading, and as text where that does not accept it.
-/
import FluentSql.MySql.Decode
import FluentSql.Proofs.Text.Utf8

namespace FluentSql.MySql

open FluentSql.Text

/-! ## Words -/

/-- the bytes of an integer, low byte first; a negative one is in two's complement -/
def wordBytes : Nat → Int → List UInt8
  | 0, _ => []
  | width + 1, n => UInt8.ofNat (n % 256).toNat :: wordBytes width (n / 256)

theorem length_wordBytes (width : Nat) (n : Int) : (wordBytes width n).length = width := by
  induction width generalizing n with
  | zero => rfl
  | succ width ih => rw [wordBytes, List.length_cons, ih]

/-- the remainder by a product, by its low digit and the digits above -/
theorem emod_mul (n : Int) {a : Int} (ha : 0 ≤ a) (b : Int) : n % (a * b) = n % a + a * (n / a % b) := by
  have hquot : n / (a * b) = n / a / b := (Int.ediv_ediv_of_nonneg ha).symm
  calc n % (a * b) = n - a * b * (n / (a * b)) := Int.emod_def n (a * b)
    _ = n - a * (n / a) + a * (n / a - b * (n / a / b)) := by rw [hquot]; ring
    _ = n % a + a * (n / a % b) := by rw [Int.emod_def n a, Int.emod_def (n / a) b]

theorem littleEndian_wordBytes (width : Nat) (n : Int) : (littleEndian (wordBytes width n) : Int) = n % 256 ^ width := by
  induction width generalizing n with
  | zero => simp [wordBytes, littleEndian]
  | succ width ih =>
    have hbyte : ((UInt8.ofNat (n % 256).toNat).toNat : Int) = n % 256 := by
      rw [UInt8.toNat_ofNat']
      omega
    rw [wordBytes, littleEndian, Nat.cast_add, Nat.cast_mul, hbyte, ih, pow_succ', emod_mul n (by decide)]
    rfl

/-! ## Integer columns -/

/-- the bytes of an integer in a column -/
def ColumnType.width : ColumnType → Nat
  | .tiny => 1
  | .short => 2
  | .long => 4
  | .int24 => 4
  | .longLong => 8
  | _ => 0

/-- the integers that the bytes of a column can spell -/
def Column.Holds (c : Column) (n : Int) : Prop :=
  if c.isUnsigned then 0 ≤ n ∧ n < 256 ^ c.type.width
  else -256 ^ c.type.width ≤ n * 2 ∧ n * 2 < 256 ^ c.type.width

instance (c : Column) (n : Int) : Decidable (c.Holds n) :=
  inferInstanceAs (Decidable (if c.isUnsigned then _ else _))

theorem ColumnType.width_le (t : ColumnType) : (256 : Int) ^ t.width ≤ 0x10000000000000000 := by
  cases t <;> simp [width]

theorem ofInt?_eq_some {n : Int} (hlow : -0x8000000000000000 ≤ n) (hhigh : n < 0x10000000000000000) :
    WordInt.ofInt? n = some ⟨n, hlow, hhigh⟩ := dif_pos ⟨hlow, hhigh⟩

/-- what the types of integers are not -/
theorem ColumnType.of_isInteger {t : ColumnType} (h : t.isInteger = true) : t.isDated = false ∧ t ≠ .bit := by
  cases t <;> simp_all [isInteger, isDated]

theorem decodeCell_integer {c : Column} (hc : c.type.isInteger = true) {n : Int} (hn : c.Holds n) :
    ∃ k : WordInt, k.val = n ∧ decodeCell c (some (wordBytes c.type.width n)) = .value (.int k) := by
  obtain ⟨hdated, hbit⟩ := ColumnType.of_isInteger hc
  have hwidth := c.type.width_le
  unfold Column.Holds at hn
  by_cases hu : c.isUnsigned = true
  · rw [if_pos hu] at hn
    have hword : WordInt.ofInt? (littleEndian (wordBytes c.type.width n)) = some ⟨n, by omega, by omega⟩ := by
      rw [littleEndian_wordBytes, Int.emod_eq_of_lt hn.1 hn.2, ofInt?_eq_some]
    have hsigned : Reading.signed c (wordBytes c.type.width n) = none := by rw [Reading.signed, hu, hc]; rfl
    have hunsigned : Reading.unsigned c (wordBytes c.type.width n) = some (.value (.int ⟨n, by omega, by omega⟩)) := by
      rw [Reading.unsigned, hu, if_neg (by decide), if_neg hbit, hc, Bool.true_or, if_pos rfl, hword]
      rfl
    refine ⟨⟨n, by omega, by omega⟩, rfl, ?_⟩
    simp [decodeCell, hdated, Reading.all, hsigned, hunsigned]
  · rw [if_neg hu] at hn
    have hword : WordInt.ofInt? ((littleEndian (wordBytes c.type.width n) : Int).bmod (Nat.pow 256 c.type.width)) =
        some ⟨n, by omega, by omega⟩ := by
      have hpow : ((Nat.pow 256 c.type.width : Nat) : Int) = 256 ^ c.type.width := Nat.cast_pow 256 c.type.width
      have hbmod : n.bmod (Nat.pow 256 c.type.width) = n :=
        Int.bmod_eq_of_le_mul_two (by rw [hpow]; exact hn.1) (by rw [hpow]; exact hn.2)
      rw [littleEndian_wordBytes, ← hpow, Int.emod_bmod, hbmod, ofInt?_eq_some]
    have hsigned : Reading.signed c (wordBytes c.type.width n) = some (.value (.int ⟨n, by omega, by omega⟩)) := by
      rw [Reading.signed, hc, if_pos (by simp [hu]), length_wordBytes, hword]
      rfl
    refine ⟨⟨n, by omega, by omega⟩, rfl, ?_⟩
    simp [decodeCell, hdated, Reading.all, hsigned]

/-! ## Columns of characters -/

/-- decimals, whose digits are sent as text -/
def ColumnType.isDecimal : ColumnType → Bool
  | .decimal | .newDecimal => true
  | _ => false

/-- no reading applies to decimals -/
theorem decodeCell_decimal {c : Column} (hc : c.type.isDecimal = true) (s : String) :
    decodeCell c (some (Utf8.encode s)) = .value (.text s) := by
  have htype : c.type = .decimal ∨ c.type = .newDecimal := by
    cases ht : c.type <;> simp_all [ColumnType.isDecimal]
  rcases htype with ht | ht
  all_goals
    simp [decodeCell, Reading.all, Reading.signed, Reading.unsigned, Reading.double, Reading.single, Reading.text,
      Reading.document, Reading.datetime, Reading.date, Reading.time, Reading.bytes, Column.isText, plainText, ht,
      ColumnType.isDated, ColumnType.isInteger, ColumnType.isString, Utf8.decode_encode]

/-- what the types of texts and byte strings are not -/
theorem ColumnType.of_isString {t : ColumnType} (h : t.isString = true) :
    t.isDated = false ∧ t.isInteger = false ∧ t ≠ .bit ∧ t ≠ .year ∧ t ≠ .double ∧ t ≠ .float := by
  cases t <;> simp_all [isString, isDated, isInteger]

/-- text is taken before it can be tried as a JSON document -/
theorem decodeCell_text {c : Column} (hc : c.isText = true) (s : String) :
    decodeCell c (some (Utf8.encode s)) = .value (.text s) := by
  have hstring : c.type.isString = true := (Bool.and_eq_true_iff.1 hc).1
  obtain ⟨hdated, hinteger, hbit, hyear, hdouble, hfloat⟩ := ColumnType.of_isString hstring
  simp [decodeCell, Reading.all, Reading.signed, Reading.unsigned, Reading.double, Reading.single, Reading.text, hc,
    hdated, hinteger, hbit, hyear, hdouble, hfloat, Utf8.decode_encode, Except.toOption]

/-- no other reading applies to JSON documents, and what is none is read as text -/
theorem decodeCell_json {c : Column} (hc : c.type = .json) (s : String) :
    decodeCell c (some (Utf8.encode s)) = .value ((Json.parse s).toOption.getD (.text s)) := by
  cases hparse : Json.parse s with
  | ok j =>
    simp [decodeCell, Reading.all, Reading.signed, Reading.unsigned, Reading.double, Reading.single, Reading.text,
      Reading.document, Column.isText, hc, ColumnType.isDated, ColumnType.isInteger, ColumnType.isString,
      Utf8.decode_encode, Except.toOption, hparse]
  | error e =>
    simp [decodeCell, Reading.all, Reading.signed, Reading.unsigned, Reading.double, Reading.single, Reading.text,
      Reading.document, Reading.datetime, Reading.date, Reading.time, Reading.bytes, Column.isText, plainText, hc,
      ColumnType.isDated, ColumnType.isInteger, ColumnType.isString, Utf8.decode_encode, Except.toOption, hparse]

end FluentSql.MySql
