/-
Floating-point numbers as words: `Binary64` and `Binary32` hold the interchange bits, `unpack` says what they stand for.

Equality of values (`same`) is not equality of words: no NaN equals anything, and the two zeros are equal.
-/

namespace FluentSql

/-- a 64-bit floating-point number, by its bits -/
structure Binary64 where
  bits : UInt64
deriving DecidableEq, Repr, Inhabited

/-- a 32-bit floating-point number, by its bits -/
structure Binary32 where
  bits : UInt32
deriving DecidableEq, Repr, Inhabited

namespace Decimal

/-! ## Powers -/

/-- the power of two, as far as it is whole: 1 for a negative exponent -/
def pow2 (n : Int) : Nat := Nat.pow 2 n.toNat

/-- the power of ten, as far as it is whole: 1 for a negative exponent -/
def pow10 (n : Int) : Nat := Nat.pow 10 n.toNat

/-! ## Words -/

/-- how a word is divided: sign, exponent, fraction, from the top -/
structure Format where
  exponentBits : Nat
  fractionBits : Nat
deriving DecidableEq, Repr

/-- how many fractions there are -/
def Format.fractions (f : Format) : Nat := Nat.pow 2 f.fractionBits

/-- how many exponents there are -/
def Format.exponents (f : Format) : Nat := Nat.pow 2 f.exponentBits

def binary64 : Format := ⟨11, 52⟩

def binary32 : Format := ⟨8, 23⟩

/-- the real number m * 2^q, m below 2^53 -/
structure Magnitude where
  m : Nat
  q : Int
  /-- the next number below is half as far away as the next above: m is the least of its binade -/
  narrowBelow : Bool
deriving DecidableEq, Repr

/-- what a word stands for -/
inductive Unpacked where
  | nan
  | infinite (negative : Bool)
  | finite (negative : Bool) (x : Magnitude)
deriving DecidableEq, Repr

def unpack (f : Format) (word : Nat) : Unpacked :=
  let fraction := word % f.fractions
  let exponent := word / f.fractions % f.exponents
  let negative := word / f.fractions / f.exponents % 2 = 1
  -- the power of two that the last bit of a subnormal counts
  let least : Int := 2 - (f.exponents / 2 : Nat) - f.fractionBits
  if exponent + 1 = f.exponents then if fraction = 0 then .infinite negative else .nan
  else if exponent = 0 then .finite negative ⟨fraction, least, false⟩
  else .finite negative ⟨f.fractions + fraction, least + (exponent - 1), fraction = 0 ∧ 1 < exponent⟩

end Decimal

/-! ## Values -/

def Binary64.unpack (x : Binary64) : Decimal.Unpacked := Decimal.unpack Decimal.binary64 x.bits.toNat

def Binary32.unpack (x : Binary32) : Decimal.Unpacked := Decimal.unpack Decimal.binary32 x.bits.toNat

namespace Decimal.Unpacked

def isFinite : Unpacked → Bool
  | .finite _ _ => true
  | _ => false

/-- the two stand for one number: never if either is NaN, and zero is one number with two signs -/
def same : Unpacked → Unpacked → Bool
  | .infinite a, .infinite b => a == b
  | .finite a x, .finite b y => x.m == y.m && x.q == y.q && (a == b || x.m == 0)
  | _, _ => false

end Decimal.Unpacked

def Binary64.same (x y : Binary64) : Bool := x.unpack.same y.unpack

def Binary32.same (x y : Binary32) : Bool := x.unpack.same y.unpack

end FluentSql
