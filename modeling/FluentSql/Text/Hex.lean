/-
Bytes as hexadecimal digits: two digits a byte, the high half first, written in lower case and read in either case.

`encode` writes, `decode?` reads: it refuses a text with a character that is no digit or with a digit left over.
-/

namespace FluentSql.Text.Hex

/-! ## Digits -/

/-- the value of one digit, of either case -/
def value? (c : Char) : Option Nat :=
  if '0' ≤ c ∧ c ≤ '9' then some (c.toNat - 48)
  else if 'a' ≤ c ∧ c ≤ 'f' then some (c.toNat - 87)
  else if 'A' ≤ c ∧ c ≤ 'F' then some (c.toNat - 55)
  else none

/-- the number that a row of digits spells, `none` if one of them is no digit -/
def number? (digits : List Char) : Option Nat :=
  digits.foldl (fun n c => n.bind fun n => (value? c).map (n * 16 + ·)) (some 0)

/-! ## Bytes -/

/-- the two digits of a byte -/
def pair (b : UInt8) : List Char := [Nat.digitChar (b.toNat / 16), Nat.digitChar (b.toNat % 16)]

def encode (bytes : List UInt8) : List Char := bytes.flatMap pair

def decode? : List Char → Option (List UInt8)
  | [] => some []
  | [_] => none
  | high :: low :: rest => do
    let h ← value? high
    let l ← value? low
    let bytes ← decode? rest
    return UInt8.ofNat (h * 16 + l) :: bytes

end FluentSql.Text.Hex
