/-
The 64-bit floating-point number nearest to a fraction of naturals, a tie going to the even word, and products and
quotients of such numbers: the exact result, rounded once.
-/
import FluentSql.Decimal.Binary

namespace FluentSql.Decimal

/-! ## Rounding -/

/-- the natural number nearest to num / den, a tie to the even one -/
def divEven (num den : Nat) : Nat :=
  let q := num / den
  match compare (2 * (num % den)) den with
  | .lt => q
  | .gt => q + 1
  | .eq => if q % 2 = 0 then q else q + 1

/-- num / den * 2^(-e) as a fraction of naturals -/
def scaled (num den : Nat) (e : Int) : Nat × Nat := (num * pow2 (-e), den * pow2 e)

/-- the least word of an infinity -/
def infinity : Nat := 0x7FF0000000000000

/-- the least significand of 53 bits, which is also one step of the exponent in a word -/
def leadingBit : Nat := 0x10000000000000

/-- The word nearest to num / den. The significand has 53 bits unless that would take the exponent below -1074; word and
significand add up, so a carry out of the significand lands in the exponent, and what passes the largest number is
infinite. -/
def nearestWord (num den : Nat) : Nat :=
  if num = 0 then 0 else
  let guess : Int := (Nat.log2 num : Int) - Nat.log2 den - 52
  -- the two logarithms cut off less than one each: the guess is right or one too high
  let e := if (scaled num den guess).1 < leadingBit * (scaled num den guess).2 then guess - 1 else guess
  let e := max e (-1074)
  let significand := divEven (scaled num den e).1 (scaled num den e).2
  min infinity ((e + 1074).toNat * leadingBit + significand)

end FluentSql.Decimal

namespace FluentSql.Binary64

open Decimal

/-- the number nearest to num / den, with the sign -/
def ofRatio (negative : Bool) (num den : Nat) : Binary64 :=
  ⟨UInt64.ofNat ((if negative then 0x8000000000000000 else 0) + nearestWord num den)⟩

def ofNat (n : Nat) : Binary64 := ofRatio false n 1

/-- the number nearest to an integer -/
def ofInt (n : Int) : Binary64 := ofRatio (decide (n < 0)) n.natAbs 1

def neg (x : Binary64) : Binary64 := ⟨x.bits ^^^ 0x8000000000000000⟩

def isInfinite (x : Binary64) : Bool := x.bits == 0x7FF0000000000000 || x.bits == 0xFFF0000000000000

/-- the product of two finite numbers without sign -/
def mul (x y : Binary64) : Binary64 :=
  match x.unpack, y.unpack with
  | .finite _ a, .finite _ b =>
    let s := Decimal.scaled (a.m * b.m) 1 (-(a.q + b.q))
    ofRatio false s.1 s.2
  | _, _ => ⟨0x7FF0000000000000⟩

/-- the quotient of two finite numbers without sign, the second not zero -/
def div (x y : Binary64) : Binary64 :=
  match x.unpack, y.unpack with
  | .finite _ a, .finite _ b =>
    let s := Decimal.scaled a.m b.m (-(a.q - b.q))
    ofRatio false s.1 s.2
  | _, _ => ⟨0⟩

end FluentSql.Binary64
