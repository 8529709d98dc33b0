/-
Dates and times of day, from the bytes of a cell and as text.

A cell is led by its length. A date is a year of two bytes, low byte first, a month and a day; a time of day follows a
date directly and otherwise a sign and a count of days, and has hour, minute, second and, if the cell is long enough,
four bytes of microseconds. Sign and days are not part of a time of day. What is no date of the calendar or no time of
day is refused. A second of 59 may count up to two million microseconds: the second million is a leap second.
-/

namespace FluentSql.MySql

/-- the number that the bytes spell, low byte first -/
def littleEndian : List UInt8 → Nat
  | [] => 0
  | b :: bytes => b.toNat + 256 * littleEndian bytes

/-- decimal digits with zeros in front, `width` of them at least -/
def padded (width n : Nat) : String :=
  let digits := Nat.toDigits 10 n
  String.ofList (List.replicate (width - digits.length) '0' ++ digits)

/-! ## Dates -/

structure Date where
  year : Nat
  month : Nat
  day : Nat
deriving DecidableEq, Repr

namespace Date

def isLeap (year : Nat) : Bool := year % 4 == 0 && (year % 100 != 0 || year % 400 == 0)

def daysIn (year month : Nat) : Nat :=
  if month = 2 then if isLeap year then 29 else 28
  else if month = 4 ∨ month = 6 ∨ month = 9 ∨ month = 11 then 30
  else 31

/-- the day is one of the calendar, which is carried back to the year 0 -/
def isValid (d : Date) : Bool := 1 ≤ d.month && d.month ≤ 12 && 1 ≤ d.day && d.day ≤ daysIn d.year d.month

/-- the date that the first four bytes spell -/
def ofBytes? : List UInt8 → Option Date
  | y0 :: y1 :: month :: day :: _ =>
    let d : Date := ⟨littleEndian [y0, y1], month.toNat, day.toNat⟩
    if d.isValid then some d else none
  | _ => none

/-- a year of more than four digits has a sign -/
def text (d : Date) : String :=
  (if 9999 < d.year then "+" else "") ++ padded 4 d.year ++ "-" ++ padded 2 d.month ++ "-" ++ padded 2 d.day

end Date

/-! ## Times of day -/

structure TimeOfDay where
  hour : Nat
  minute : Nat
  second : Nat
  /-- from a million on, those of the leap second that follows `second` -/
  micros : Nat
deriving DecidableEq, Repr

namespace TimeOfDay

def midnight : TimeOfDay := ⟨0, 0, 0, 0⟩

def isValid (t : TimeOfDay) : Bool :=
  t.hour < 24 && t.minute < 60 && t.second < 60 &&
    (t.micros < 1000000 || (t.second == 59 && t.micros < 2000000))

def ofBytes? : List UInt8 → Option TimeOfDay
  | hour :: minute :: second :: micros =>
    let t : TimeOfDay := ⟨hour.toNat, minute.toNat, second.toNat, littleEndian (micros.take 4)⟩
    if t.isValid then some t else none
  | _ => none

/-- the fraction has three digits if they suffice and six otherwise, none if it is zero -/
def fractionText (micros : Nat) : String :=
  if micros = 0 then ""
  else if micros % 1000 = 0 then "." ++ padded 3 (micros / 1000)
  else "." ++ padded 6 micros

def text (t : TimeOfDay) : String :=
  padded 2 t.hour ++ ":" ++ padded 2 t.minute ++ ":" ++ padded 2 (t.second + t.micros / 1000000) ++
    fractionText (t.micros % 1000000)

end TimeOfDay

/-! ## Cells -/

/-- a cell of a date alone -/
def dateCell? : List UInt8 → Option String
  | _ :: bytes => (Date.ofBytes? bytes).map Date.text
  | [] => none

/-- a cell of a date and a time; of four bytes, midnight -/
def datetimeCell? : List UInt8 → Option String
  | length :: bytes => do
    let d ← Date.ofBytes? bytes
    let t ← if length ≤ 4 then some .midnight else TimeOfDay.ofBytes? (bytes.drop 4)
    return d.text ++ " " ++ t.text
  | [] => none

/-- a cell of a time; of no bytes, midnight -/
def timeCell? : List UInt8 → Option String
  | length :: bytes =>
    if length = 0 then some TimeOfDay.midnight.text
    else (TimeOfDay.ofBytes? (bytes.drop 5)).map TimeOfDay.text
  | [] => none

end FluentSql.MySql
