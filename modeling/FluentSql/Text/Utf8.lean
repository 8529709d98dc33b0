/-
UTF-8 text from bytes, read one byte at a time.

`decode` gives the characters, or a `Fault`: where the first sequence begins that is no character, and how many of its
bytes were still fitting when it broke off. Surrogates, code points past U+10FFFF and spellings longer than needed are
refused by the range that the second byte must lie in.
-/

namespace FluentSql.Text.Utf8

/-! ## Faults -/

/-- the first sequence that spells no character -/
structure Fault where
  /-- bytes before it, all of them well formed -/
  start : Nat
  /-- its fitting bytes, `none` if the input ends before the sequence does -/
  length : Option Nat
deriving DecidableEq, Repr

def Fault.message (f : Fault) : String :=
  match f.length with
  | some n => "invalid utf-8 sequence of " ++ n.repr ++ " bytes from index " ++ f.start.repr
  | none => "incomplete utf-8 byte sequence from index " ++ f.start.repr

/-! ## Reading -/

/-- a sequence of which at least one byte is still to come -/
structure Pending where
  start : Nat
  seen : Nat
  /-- bits of the code point read so far -/
  code : Nat
  /-- the range of the next byte -/
  low : Nat
  high : Nat
  /-- bytes still to come after the next one -/
  more : Nat
deriving DecidableEq, Repr

/-- what the first byte of a longer sequence announces -/
def lead? (start b : Nat) : Option Pending :=
  if 0xC2 ≤ b ∧ b ≤ 0xDF then some ⟨start, 1, b - 0xC0, 0x80, 0xBF, 0⟩
  else if b = 0xE0 then some ⟨start, 1, 0, 0xA0, 0xBF, 1⟩
  else if b = 0xED then some ⟨start, 1, 0xD, 0x80, 0x9F, 1⟩
  else if 0xE1 ≤ b ∧ b ≤ 0xEF then some ⟨start, 1, b - 0xE0, 0x80, 0xBF, 1⟩
  else if b = 0xF0 then some ⟨start, 1, 0, 0x90, 0xBF, 2⟩
  else if 0xF1 ≤ b ∧ b ≤ 0xF3 then some ⟨start, 1, b - 0xF0, 0x80, 0xBF, 2⟩
  else if b = 0xF4 then some ⟨start, 1, 4, 0x80, 0x8F, 2⟩
  else none

/-- read on from byte number `index`, in the middle of `pending` if there is one -/
def decodeFrom (index : Nat) : Option Pending → List UInt8 → Except Fault (List Char)
  | none, [] => .ok []
  | some p, [] => .error ⟨p.start, none⟩
  | none, b :: bytes =>
    if b.toNat < 0x80 then (decodeFrom (index + 1) none bytes).map (Char.ofNat b.toNat :: ·)
    else match lead? index b.toNat with
      | none => .error ⟨index, some 1⟩
      | some p => decodeFrom (index + 1) (some p) bytes
  | some p, b :: bytes =>
    if p.low ≤ b.toNat ∧ b.toNat ≤ p.high then
      let code := p.code * 64 + (b.toNat - 0x80)
      match p.more with
      | 0 => (decodeFrom (index + 1) none bytes).map (Char.ofNat code :: ·)
      | more + 1 => decodeFrom (index + 1) (some ⟨p.start, p.seen + 1, code, 0x80, 0xBF, more⟩) bytes
    else .error ⟨p.start, some p.seen⟩

/-- the text that the bytes spell -/
def decode (bytes : List UInt8) : Except Fault String := (decodeFrom 0 none bytes).map String.ofList

end FluentSql.Text.Utf8
