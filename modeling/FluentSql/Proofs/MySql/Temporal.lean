/-
Cells of dates and times.

The text of a date determines it, and so does that of a time of day. But a TIME is no time of day: it has a sign and a
count of days, and both are dropped.
- `decodeCell_timestamp`: no reading applies to timestamps, and their bytes are no text.
- `temporal_told_apart`: cells of dates that are read as one text hold one date and time; cells of TIME are read alike
  exactly if they agree up to their sign and up to whole days.
- `times_read_alike`: three times of which two are a day apart and two differ in their sign.
-/
import FluentSql.MySql.Decode
import FluentSql.Proofs.MySql.TemporalText
import FluentSql.Proofs.Text.Utf8

namespace FluentSql.MySql

open FluentSql.Text

/-! ## What cells hold -/

/-- the date that some fields spell; fields that are left out at the end are zero -/
def Date.ofFields (fields : List UInt8) : Date :=
  ⟨littleEndian (fields.take 2), (fields.getD 2 0).toNat, (fields.getD 3 0).toNat⟩

/-- the time of day that they spell -/
def TimeOfDay.ofFields (fields : List UInt8) : TimeOfDay :=
  ⟨(fields.getD 0 0).toNat, (fields.getD 1 0).toNat, (fields.getD 2 0).toNat, littleEndian ((fields.drop 3).take 4)⟩

/-- every unit is carried to the next -/
def TimeOfDay.IsCarried (t : TimeOfDay) : Prop := t.hour < 24 ∧ t.minute < 60 ∧ t.second < 60 ∧ t.micros < 1000000

instance (t : TimeOfDay) : Decidable t.IsCarried := inferInstanceAs (Decidable (_ ∧ _))

def TimeOfDay.inMicros (t : TimeOfDay) : Nat := ((t.hour * 60 + t.minute) * 60 + t.second) * 1000000 + t.micros

/-- the microseconds of a day -/
def dayMicros : Nat := 86400000000

/-- a date and a time of day; month and day may be zero -/
@[ext]
structure Moment where
  date : Date
  time : TimeOfDay
deriving DecidableEq, Repr

/-- a time with a sign, of any number of days -/
structure Span where
  negative : Bool
  days : Nat
  time : TimeOfDay
deriving DecidableEq, Repr

/-- how long it is, without its sign -/
def Span.size (s : Span) : Nat := s.days * dayMicros + s.time.inMicros

def Span.micros (s : Span) : Int := if s.negative then -s.size else s.size

/-- how many bytes may stand behind the length of a cell -/
def ColumnType.bodyLengths : ColumnType → List Nat
  | .date => [0, 4]
  | .datetime | .timestamp => [0, 4, 7, 11]
  | .time => [0, 8, 12]
  | _ => []

/-- where the time of day stands in them -/
def ColumnType.timeOffset (t : ColumnType) : Nat := if t = .time then 5 else 4

/-- a cell that a server may send for a column of dates or times: what stands behind its length -/
structure TemporalCell (t : ColumnType) where
  body : List UInt8
  length_mem : body.length ∈ t.bodyLengths
  carried : (TimeOfDay.ofFields (body.drop t.timeOffset)).IsCarried

namespace TemporalCell

variable {t : ColumnType} (cell : TemporalCell t)

def bytes : List UInt8 := UInt8.ofNat cell.body.length :: cell.body

/-- the date and the time of day in a cell of a date -/
def moment : Moment := ⟨.ofFields cell.body, .ofFields (cell.body.drop t.timeOffset)⟩

/-- the time in a cell of TIME -/
def span : Span :=
  ⟨cell.body.getD 0 0 == 1, littleEndian ((cell.body.drop 1).take 4), .ofFields (cell.body.drop t.timeOffset)⟩

theorem length_le : cell.body.length ≤ 12 := by
  have hbound : ∀ n ∈ t.bodyLengths, n ≤ 12 := by cases t <;> decide
  exact hbound _ cell.length_mem

theorem toNat_length : (UInt8.ofNat cell.body.length).toNat = cell.body.length := by
  have hle := cell.length_le
  rw [UInt8.toNat_ofNat']
  omega

theorem length_eq_zero_iff : UInt8.ofNat cell.body.length = 0 ↔ cell.body.length = 0 := by
  rw [← UInt8.toNat_inj, cell.toNat_length]
  rfl

theorem length_le_four_iff : UInt8.ofNat cell.body.length ≤ 4 ↔ cell.body.length ≤ 4 := by
  rw [UInt8.le_iff_toNat_le, cell.toNat_length]
  rfl

end TemporalCell

/-! ## Readings -/

theorem TimeOfDay.ofFields_of_length_eq_zero {fields : List UInt8} (h : fields.length = 0) :
    ofFields fields = midnight := by
  rw [List.length_eq_zero_iff.1 h]
  rfl

theorem TimeOfDay.IsCarried.isValid {t : TimeOfDay} (h : t.IsCarried) : t.isValid = true := by
  obtain ⟨hhour, hminute, hsecond, hmicros⟩ := h
  simp [TimeOfDay.isValid, hhour, hminute, hsecond, hmicros]

theorem TimeOfDay.ofBytes?_of_isCarried {fields : List UInt8} (h : 3 ≤ fields.length)
    (hcarried : (ofFields fields).IsCarried) : TimeOfDay.ofBytes? fields = some (ofFields fields) := by
  match fields, h with
  | hour :: minute :: second :: micros, _ => exact if_pos hcarried.isValid

/-- a cell of TIME is read as its time of day, whatever its sign and its days are -/
theorem timeCell?_bytes {t : ColumnType} (ht : t = .time) (cell : TemporalCell t) :
    timeCell? cell.bytes = some cell.span.time.text := by
  subst ht
  have hlength : cell.body.length = 0 ∨ cell.body.length = 8 ∨ cell.body.length = 12 := by
    simpa [ColumnType.bodyLengths] using cell.length_mem
  rw [TemporalCell.bytes, timeCell?]
  by_cases hzero : cell.body.length = 0
  · have hmidnight : cell.span.time = .midnight := TimeOfDay.ofFields_of_length_eq_zero (by simp [hzero])
    rw [if_pos (cell.length_eq_zero_iff.2 hzero), hmidnight]
  · have htime : TimeOfDay.ofBytes? (cell.body.drop 5) = some cell.span.time :=
      TimeOfDay.ofBytes?_of_isCarried (by rw [List.length_drop]; omega) cell.carried
    rw [if_neg (mt cell.length_eq_zero_iff.1 hzero), htime]
    rfl

theorem Date.ofBytes?_eq {fields : List UInt8} (h : 4 ≤ fields.length) :
    Date.ofBytes? fields = if (ofFields fields).isValid then some (ofFields fields) else none := by
  match fields, h with
  | y0 :: y1 :: month :: day :: _, _ => rfl

theorem Date.ofBytes?_body {t : ColumnType} (cell : TemporalCell t) (h : 4 ≤ cell.body.length) :
    Date.ofBytes? cell.body = if cell.moment.date.isValid then some cell.moment.date else none :=
  Date.ofBytes?_eq h

/-- a cell of a date and a time is read as both -/
theorem datetimeCell?_bytes {t : ColumnType} (ht : t = .datetime) (cell : TemporalCell t) (hbody : cell.body ≠ []) :
    datetimeCell? cell.bytes =
      if cell.moment.date.isValid then some (cell.moment.date.text ++ " " ++ cell.moment.time.text) else none := by
  subst ht
  have hlength : cell.body.length = 0 ∨ cell.body.length = 4 ∨ cell.body.length = 7 ∨ cell.body.length = 11 := by
    simpa [ColumnType.bodyLengths] using cell.length_mem
  have hpos : cell.body.length ≠ 0 := mt List.length_eq_zero_iff.1 hbody
  rw [TemporalCell.bytes, datetimeCell?, Date.ofBytes?_body cell (by omega)]
  by_cases hfour : cell.body.length ≤ 4
  · have hmidnight : cell.moment.time = .midnight :=
      TimeOfDay.ofFields_of_length_eq_zero (by rw [List.length_drop]; exact Nat.sub_eq_zero_of_le hfour)
    simp only [cell.length_le_four_iff.2 hfour, if_true, hmidnight]
    split_ifs <;> rfl
  · have htime : TimeOfDay.ofBytes? (cell.body.drop 4) = some cell.moment.time :=
      TimeOfDay.ofBytes?_of_isCarried (by rw [List.length_drop]; omega) cell.carried
    simp only [mt cell.length_le_four_iff.1 hfour, if_false, htime]
    split_ifs <;> rfl

theorem dateCell?_bytes {t : ColumnType} (ht : t = .date) (cell : TemporalCell t) (hbody : cell.body ≠ []) :
    dateCell? cell.bytes = if cell.moment.date.isValid then some cell.moment.date.text else none := by
  subst ht
  have hlength : cell.body.length = 0 ∨ cell.body.length = 4 := by
    simpa [ColumnType.bodyLengths] using cell.length_mem
  have hpos : cell.body.length ≠ 0 := mt List.length_eq_zero_iff.1 hbody
  rw [TemporalCell.bytes, dateCell?, Date.ofBytes?_body cell (by omega)]
  split_ifs <;> rfl

/-- what is written of a moment: nothing in a column of timestamps, and nothing if the calendar has no such date -/
def Moment.text? (t : ColumnType) (m : Moment) : Option String :=
  if m.date.isValid then
    match t with
    | .date => some m.date.text
    | .datetime => some (m.date.text ++ " " ++ m.time.text)
    | _ => none
  else none

/-- what the types of dates are -/
theorem TemporalCell.type_cases {t : ColumnType} (cell : TemporalCell t) (ht : t ≠ .time) :
    t = .date ∨ t = .datetime ∨ t = .timestamp := by
  have hmem := cell.length_mem
  cases t <;> simp_all [ColumnType.bodyLengths]

theorem TemporalCell.head?_bytes {t : ColumnType} (cell : TemporalCell t) (hbody : cell.body ≠ []) :
    (cell.bytes.head? == some 0) = false := by
  have hne : UInt8.ofNat cell.body.length ≠ 0 := mt cell.length_eq_zero_iff.1 (mt List.length_eq_zero_iff.1 hbody)
  simpa [bytes] using hne

/-- a cell of a date is the moment that it holds or else plain text -/
theorem decodeCell_moment {c : Column} (hc : c.type ≠ .time) (cell : TemporalCell c.type) (hbody : cell.body ≠ []) :
    decodeCell c (some cell.bytes) =
      ((cell.moment.text? c.type).map fun s => .value (.text s)).getD (plainText cell.bytes) := by
  have hhead := cell.head?_bytes hbody
  rcases cell.type_cases hc with ht | ht | ht
  -- of all readings only the one for the type is left
  all_goals
    simp only [decodeCell, hhead, Bool.and_false, if_neg Bool.false_ne_true, Reading.all, List.findSome?_cons,
      Reading.signed, Reading.unsigned, Reading.double, Reading.single, Reading.text, Reading.document,
      Reading.datetime, Reading.date, Reading.time, Reading.bytes, Column.isText, ht, ColumnType.isInteger,
      ColumnType.isString, Moment.text?]
  · have hdate := dateCell?_bytes ht cell hbody
    cases hvalid : cell.moment.date.isValid <;> simp [hdate, hvalid]
  · have hdatetime := datetimeCell?_bytes ht cell hbody
    cases hvalid : cell.moment.date.isValid <;> simp [hdatetime, hvalid]
  · simp

/-- a cell of TIME is a time of day and never plain text -/
theorem decodeCell_span {c : Column} (hc : c.type = .time) (cell : TemporalCell c.type) :
    decodeCell c (some cell.bytes) = .value (.text cell.span.time.text) := by
  simp [decodeCell, Reading.all, Reading.signed, Reading.unsigned, Reading.double, Reading.single, Reading.text,
    Reading.document, Reading.datetime, Reading.date, Reading.time, Column.isText, hc, timeCell?_bytes hc,
    ColumnType.isDated, ColumnType.isInteger, ColumnType.isString]

/-! ## Cells told apart -/

/-- what is written of a moment determines it; a cell of a date alone has no time of day to write -/
theorem Moment.eq_of_text? {t : ColumnType} {a b : TemporalCell t} {s : String} (ha : a.moment.text? t = some s)
    (hb : b.moment.text? t = some s) : a.moment = b.moment := by
  unfold text? at ha hb
  split_ifs at ha hb
  have hsame := ha.trans hb.symm
  cases t with
  | date =>
    have htime (cell : TemporalCell .date) : cell.moment.time = .midnight := by
      have hlength : cell.body.length = 0 ∨ cell.body.length = 4 := by
        simpa [ColumnType.bodyLengths] using cell.length_mem
      have hoffset : ColumnType.date.timeOffset = 4 := rfl
      exact TimeOfDay.ofFields_of_length_eq_zero (by rw [List.length_drop]; omega)
    exact Moment.ext (Date.text_injective (Option.some.inj hsame)) ((htime a).trans (htime b).symm)
  | datetime =>
    have hblank (d : Date) : ' ' ∉ d.text.toList := fun hmem => absurd (Date.mem_text hmem) (by decide)
    have hchars (m : Moment) : (m.date.text ++ " " ++ m.time.text).toList = m.date.text.toList ++ ' ' :: m.time.text.toList := by
      simp
    have htext := congrArg String.toList (Option.some.inj hsame)
    rw [hchars, hchars] at htext
    obtain ⟨hdate, htime⟩ := eq_of_append_cons_eq (hblank _) (hblank _) htext
    exact Moment.ext (Date.text_injective (String.toList_inj.1 hdate))
      (TimeOfDay.text_injective a.carried.isValid b.carried.isValid (String.toList_inj.1 htime))
  | _ => cases ha

/-- the text begins as one that is written of a date does -/
def BeginsDate (s : String) : Prop := ∃ c cs, s.toList = c :: cs ∧ (c.isDigit = true ∨ c = '+' ∨ c = '-')

theorem Date.beginsDate_text (d : Date) (rest : String) : BeginsDate (d.text ++ rest) := by
  obtain ⟨c, cs, hcs⟩ : ∃ c cs, d.text.toList = c :: cs := by
    apply List.exists_cons_of_ne_nil
    rw [toList_text]
    simp
  exact ⟨c, cs ++ rest.toList, by rw [String.toList_append, hcs, List.cons_append], mem_text (hcs ▸ List.mem_cons_self)⟩

theorem Moment.beginsDate_of_text? {t : ColumnType} {m : Moment} {s : String} (h : m.text? t = some s) :
    BeginsDate s := by
  unfold text? at h
  split_ifs at h
  cases t with
  | date =>
    obtain rfl := Option.some.inj h
    simpa using m.date.beginsDate_text ""
  | datetime =>
    obtain rfl := Option.some.inj h
    rw [String.append_assoc]
    exact m.date.beginsDate_text _
  | _ => cases h

/-- plain text begins with the character of the length, which is a control character -/
theorem TemporalCell.not_beginsDate {t : ColumnType} (cell : TemporalCell t) {s : String}
    (h : Utf8.encode s = cell.bytes) : ¬ BeginsDate s := by
  have hcontrol : ∀ n < 13, ¬ ((Char.ofNat n).isDigit = true ∨ Char.ofNat n = '+' ∨ Char.ofNat n = '-') := by decide
  have hlength := cell.length_le
  rintro ⟨c, cs, hcs, hc⟩
  have hdecode := Utf8.decode_encode s
  rw [h, Utf8.decode, bytes, Utf8.decodeFrom_ascii 0 (by omega)] at hdecode
  obtain ⟨ds, hds, rfl⟩ := map_eq_ok hdecode
  obtain ⟨es, -, rfl⟩ := map_eq_ok hds
  rw [String.toList_ofList, List.cons.injEq] at hcs
  exact hcontrol _ (by omega) (hcs.1 ▸ hc)

theorem TemporalCell.body_ne_nil_of_text {c : Column} (hc : c.type ≠ .time) (cell : TemporalCell c.type) {s : String}
    (h : decodeCell c (some cell.bytes) = .value (.text s)) : cell.body ≠ [] := by
  intro hbody
  have hdated : c.type.isDated = true := by
    rcases cell.type_cases hc with ht | ht | ht <;> rw [ht] <;> rfl
  have hbytes : cell.bytes = [0] := by rw [bytes, hbody]; rfl
  rw [hbytes, decodeCell, hdated] at h
  cases h

/-- a text that a cell of a date is read as is what is written of its moment, or else it spells its bytes -/
theorem text?_or_encode {c : Column} (hc : c.type ≠ .time) (cell : TemporalCell c.type) {s : String}
    (h : decodeCell c (some cell.bytes) = .value (.text s)) :
    cell.moment.text? c.type = some s ∨ Utf8.encode s = cell.bytes := by
  rw [decodeCell_moment hc cell (cell.body_ne_nil_of_text hc h)] at h
  cases htext : cell.moment.text? c.type with
  | some s' =>
    rw [htext, Option.map_some, Option.getD_some, Decoded.value.injEq, Json.text.injEq] at h
    exact .inl (congrArg some h)
  | none =>
    rw [htext, Option.map_none, Option.getD_none, plainText] at h
    split at h
    · next s' hdecode =>
      rw [Decoded.value.injEq, Json.text.injEq] at h
      exact .inr (Utf8.encode_of_decode (h ▸ hdecode))
    · cases h

theorem moment_eq_of_decodeCell {c : Column} (hc : c.type ≠ .time) {a b : TemporalCell c.type} {s : String}
    (ha : decodeCell c (some a.bytes) = .value (.text s)) (hb : decodeCell c (some b.bytes) = .value (.text s)) :
    a.moment = b.moment := by
  obtain ha | ha := text?_or_encode hc a ha <;> obtain hb | hb := text?_or_encode hc b hb
  · exact Moment.eq_of_text? ha hb
  · exact absurd (Moment.beginsDate_of_text? ha) (b.not_beginsDate hb)
  · exact absurd (Moment.beginsDate_of_text? hb) (a.not_beginsDate ha)
  · have hbody : a.body = b.body := (List.cons.inj (ha.symm.trans hb)).2
    rw [TemporalCell.moment, TemporalCell.moment, hbody]

theorem TimeOfDay.inMicros_injective {t t' : TimeOfDay} (ht : t.IsCarried) (ht' : t'.IsCarried)
    (h : t.inMicros = t'.inMicros) : t = t' := by
  cases t
  cases t'
  simp only [IsCarried, inMicros, mk.injEq] at *
  omega

theorem TimeOfDay.IsCarried.inMicros_lt {t : TimeOfDay} (h : t.IsCarried) : t.inMicros < dayMicros := by
  obtain ⟨hhour, hminute, hsecond, hmicros⟩ := h
  unfold inMicros dayMicros
  omega

/-- without its sign and without whole days, a time is a time of day -/
theorem Span.natAbs_micros_mod {s : Span} (h : s.time.IsCarried) : s.micros.natAbs % dayMicros = s.time.inMicros := by
  have habs : s.micros.natAbs = s.size := by
    unfold micros
    split_ifs
    · rw [Int.natAbs_neg, Int.natAbs_natCast]
    · exact Int.natAbs_natCast s.size
  rw [habs, size, Nat.mul_add_mod', Nat.mod_eq_of_lt h.inMicros_lt]

theorem Moment.exists_text? {t : ColumnType} (ht : t = .date ∨ t = .datetime) {m : Moment}
    (hvalid : m.date.isValid = true) : ∃ s, m.text? t = some s := by
  rcases ht with rfl | rfl
  · exact ⟨_, if_pos hvalid⟩
  · exact ⟨_, if_pos hvalid⟩

/-- a date of the calendar is read as what is written of it -/
theorem decodeCell_calendar {c : Column} (hc : c.type = .date ∨ c.type = .datetime) (cell : TemporalCell c.type)
    (hvalid : cell.moment.date.isValid = true) :
    ∃ s, cell.moment.text? c.type = some s ∧ decodeCell c (some cell.bytes) = .value (.text s) := by
  have hbody : cell.body ≠ [] := by
    intro hbody
    have hzero : (Date.ofFields []).isValid = true := hbody ▸ hvalid
    exact absurd hzero (by decide)
  have htime : c.type ≠ .time := by rcases hc with ht | ht <;> rw [ht] <;> decide
  obtain ⟨s, hs⟩ := Moment.exists_text? hc hvalid
  refine ⟨s, hs, ?_⟩
  rw [decodeCell_moment htime cell hbody, hs]
  rfl

/-- a timestamp is not read as a text: in the years of its range the low byte of the year is past ASCII, and the high byte,
which is 7, is not -/
theorem decodeCell_timestamp {c : Column} (hc : c.type = .timestamp) (cell : TemporalCell c.type)
    (hfrom : 1970 ≤ cell.moment.date.year) (hto : cell.moment.date.year ≤ 2038) :
    ∃ fault, decodeCell c (some cell.bytes) = .notText fault := by
  have hyear : cell.moment.date.year = littleEndian (cell.body.take 2) := rfl
  obtain ⟨low, high, rest, hbody⟩ : ∃ low high rest, cell.body = low :: high :: rest := by
    match h : cell.body with
    | [] => simp [hyear, h, littleEndian] at hfrom
    | [low] =>
      have hbyte := low.toNat_lt
      simp only [hyear, h, List.take, littleEndian] at hfrom
      omega
    | low :: high :: rest => exact ⟨low, high, rest, rfl⟩
  have hbytes : 0x80 ≤ low.toNat ∧ high.toNat < 0x80 := by
    have hbyte := low.toNat_lt
    simp only [hyear, hbody, List.take, littleEndian] at hfrom hto
    omega
  have htype : c.type ≠ .time := by rw [hc]; decide
  have hnotext (m : Moment) : m.text? c.type = none := by
    rw [hc]
    cases hvalid : m.date.isValid <;> simp [Moment.text?, hvalid]
  have hlength := cell.length_le
  obtain ⟨fault, hfault⟩ := Utf8.exists_decodeFrom_eq_error 1 hbytes.1 hbytes.2 rest
  have hdecode : Utf8.decode cell.bytes = .error fault := by
    rw [Utf8.decode, TemporalCell.bytes, Utf8.decodeFrom_ascii 0 (by omega), hbody, hfault]
    rfl
  refine ⟨fault, ?_⟩
  rw [decodeCell_moment htype cell (by simp [hbody]), hnotext, plainText, hdecode]
  rfl

/-- what two cells of one column give away -/
structure ToldApart (c : Column) (a b : TemporalCell c.type) : Prop where
  /-- dates that are read as one text are one date, at one time of day -/
  dated : c.type ≠ .time → ∀ s, decodeCell c (some a.bytes) = .value (.text s) →
    decodeCell c (some b.bytes) = .value (.text s) → a.moment = b.moment
  /-- and those of the calendar are read as a text, each as its own -/
  calendar_iff : c.type = .date ∨ c.type = .datetime → a.moment.date.isValid = true → b.moment.date.isValid = true →
    (decodeCell c (some a.bytes) = decodeCell c (some b.bytes) ↔ a.moment = b.moment)
  /-- a timestamp is not read at all: in the years of its range it fails -/
  timestamp_fails : c.type = .timestamp → 1970 ≤ a.moment.date.year → a.moment.date.year ≤ 2038 →
    ∃ fault, decodeCell c (some a.bytes) = .notText fault
  /-- times are read as a text -/
  time_text : c.type = .time → ∃ s, decodeCell c (some a.bytes) = .value (.text s)
  /-- which tells them apart up to their sign and up to whole days -/
  time_iff : c.type = .time → (decodeCell c (some a.bytes) = decodeCell c (some b.bytes) ↔
    a.span.micros.natAbs % dayMicros = b.span.micros.natAbs % dayMicros)

/-- **Dates and times.** Two cells of a column of dates that are read as one text hold the same date and time, and every
date of the calendar is read as a text, except that a timestamp fails. Two cells of TIME are read alike exactly if their
sizes differ by whole days, whatever their signs. -/
theorem temporal_told_apart (c : Column) (a b : TemporalCell c.type) : ToldApart c a b where
  dated := fun hc _ ha hb => moment_eq_of_decodeCell hc ha hb
  calendar_iff := by
    intro hc ha hb
    obtain ⟨s, hs, has⟩ := decodeCell_calendar hc a ha
    obtain ⟨s', hs', hbs⟩ := decodeCell_calendar hc b hb
    have htime : c.type ≠ .time := by rcases hc with ht | ht <;> rw [ht] <;> decide
    constructor
    · intro h
      exact moment_eq_of_decodeCell htime has (h ▸ has)
    · intro h
      rw [h, hs', Option.some.injEq] at hs
      rw [has, hbs, hs]
  timestamp_fails := fun hc => decodeCell_timestamp hc a
  time_text := fun hc => ⟨_, decodeCell_span hc a⟩
  time_iff := by
    intro hc
    have ha : a.span.time.IsCarried := a.carried
    have hb : b.span.time.IsCarried := b.carried
    rw [decodeCell_span hc, decodeCell_span hc, Decoded.value.injEq, Json.text.injEq, Span.natAbs_micros_mod ha,
      Span.natAbs_micros_mod hb]
    constructor
    · intro h
      rw [TimeOfDay.text_injective ha.isValid hb.isValid h]
    · intro h
      rw [TimeOfDay.inMicros_injective ha hb h]

/-- ten hours, ten hours more than a day, and ten hours back: all within the range of TIME -/
theorem times_read_alike :
    let c : Column := ⟨"t", none, .time, 63, 0⟩
    let ten : TemporalCell c.type := ⟨[0, 0, 0, 0, 0, 10, 0, 0], by decide, by decide⟩
    let dayLater : TemporalCell c.type := ⟨[0, 1, 0, 0, 0, 10, 0, 0], by decide, by decide⟩
    let negated : TemporalCell c.type := ⟨[1, 0, 0, 0, 0, 10, 0, 0], by decide, by decide⟩
    decodeCell c (some ten.bytes) = .value (.text "10:00:00") ∧
      decodeCell c (some dayLater.bytes) = .value (.text "10:00:00") ∧
      decodeCell c (some negated.bytes) = .value (.text "10:00:00") ∧
      ten.span.micros = 36000000000 ∧ dayLater.span.micros = 122400000000 ∧ negated.span.micros = -36000000000 := by
  intro c ten dayLater negated
  have htext : (⟨10, 0, 0, 0⟩ : TimeOfDay).text = "10:00:00" := by decide +kernel
  have hread (cell : TemporalCell c.type) (hcell : cell.span.time = ⟨10, 0, 0, 0⟩) :
      decodeCell c (some cell.bytes) = .value (.text "10:00:00") := by
    rw [decodeCell_span rfl cell, hcell, htext]
  exact ⟨hread ten rfl, hread dayLater rfl, hread negated rfl, by decide +kernel, by decide +kernel, by decide +kernel⟩

end FluentSql.MySql
