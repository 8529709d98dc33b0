/-
The numbers that floating-point words stand for.

A finite word is a significand times a power of two, with a sign. Of the ways to write a number so, the words of a format
have one: the significand is bounded, and it is large unless the power is the least (`Format.Holds`, `eq_of_value_eq`).
- `Binary64.same_iff`: two finite words are the same exactly if they stand for the same rational number. Words of the two
  zeros are.
-/
import FluentSql.Decimal.Binary
import Mathlib.Algebra.Order.Field.Power
import Mathlib.Algebra.Order.Field.Rat
import Mathlib.Tactic

namespace FluentSql

namespace Decimal

/-! ## Magnitudes -/

/-- the number, without a sign -/
def Magnitude.value (x : Magnitude) : ℚ := x.m * 2 ^ x.q

theorem Magnitude.value_nonneg (x : Magnitude) : 0 ≤ x.value := by
  unfold value
  positivity

theorem Magnitude.value_eq_zero_iff (x : Magnitude) : x.value = 0 ↔ x.m = 0 := by
  have hpower : (2 : ℚ) ^ x.q ≠ 0 := zpow_ne_zero _ two_ne_zero
  rw [value, mul_eq_zero, or_iff_left hpower, Nat.cast_eq_zero]

/-- the power of two that the last bit of a subnormal counts -/
def Format.least (f : Format) : Int := 2 - (f.exponents / 2 : Nat) - f.fractionBits

/-- significand and power as the words of a format have them -/
structure Format.Holds (f : Format) (x : Magnitude) : Prop where
  bounded : x.m < 2 * f.fractions
  least : f.least ≤ x.q
  /-- a small significand has the least power -/
  subnormal : x.m < f.fractions → x.q = f.least

theorem holds_of_unpack {f : Format} {word : Nat} {negative : Bool} {x : Magnitude}
    (h : unpack f word = .finite negative x) : f.Holds x := by
  have hfraction : word % f.fractions < f.fractions := Nat.mod_lt _ (Nat.pow_pos Nat.two_pos)
  unfold unpack at h
  dsimp only at h
  split_ifs at h with hspecial hinfinite hzero
  · obtain ⟨-, rfl⟩ := Unpacked.finite.inj h
    exact ⟨show word % f.fractions < 2 * f.fractions by omega, le_rfl, fun _ => rfl⟩
  · obtain ⟨-, rfl⟩ := Unpacked.finite.inj h
    have hbounded : f.fractions + word % f.fractions < 2 * f.fractions := by omega
    have hleast : f.least ≤ f.least + ((word / f.fractions % f.exponents : Nat) - 1) := by omega
    have hlarge : ¬ f.fractions + word % f.fractions < f.fractions := by omega
    exact ⟨hbounded, hleast, fun hsmall => absurd hsmall hlarge⟩

/-- a number has one significand and one power -/
theorem eq_of_value_eq {f : Format} {x y : Magnitude} (hx : f.Holds x) (hy : f.Holds y) (h : x.value = y.value) :
    x.m = y.m ∧ x.q = y.q := by
  wlog hle : x.q ≤ y.q generalizing x y
  · obtain ⟨hm, hq⟩ := this hy hx h.symm (by omega)
    exact ⟨hm.symm, hq.symm⟩
  obtain ⟨k, hk⟩ := Int.le.dest hle
  -- both in units of the smaller power
  have hm : x.m = y.m * 2 ^ k := by
    have hpower : (2 : ℚ) ^ x.q ≠ 0 := zpow_ne_zero _ two_ne_zero
    have hunits : (x.m : ℚ) * 2 ^ x.q = y.m * 2 ^ k * 2 ^ x.q := by
      rw [Magnitude.value, Magnitude.value, ← hk, zpow_add₀ two_ne_zero, zpow_natCast] at h
      rw [h]
      ring
    exact_mod_cast mul_right_cancel₀ hpower hunits
  cases k with
  | zero => exact ⟨by simpa using hm, by simpa using hk⟩
  -- otherwise the significand of y is not small, and that of x twice as large or more
  | succ k =>
    have hlarge : f.fractions ≤ y.m := by
      by_contra hsmall
      have hleast := hx.least
      have hsub := hy.subnormal (Nat.not_le.1 hsmall)
      omega
    have htwice : 2 * f.fractions ≤ y.m * 2 ^ (k + 1) := by
      have hpow : 2 ≤ 2 ^ (k + 1) := Nat.le_self_pow (Nat.succ_ne_zero k) 2
      calc 2 * f.fractions = f.fractions * 2 := Nat.mul_comm _ _
        _ ≤ y.m * 2 ^ (k + 1) := Nat.mul_le_mul hlarge hpow
    have hbounded := hx.bounded
    omega

/-! ## Words -/

namespace Unpacked

/-- the number, if there is one -/
def number? : Unpacked → Option ℚ
  | .finite negative x => some (if negative then -x.value else x.value)
  | _ => none

theorem same_finite_iff {f : Format} {a b : Bool} {x y : Magnitude} (hx : f.Holds x) (hy : f.Holds y) :
    (finite a x).same (finite b y) = true ↔ (finite a x).number? = (finite b y).number? := by
  have hxpos := x.value_nonneg
  have hypos := y.value_nonneg
  have hparts : (finite a x).same (finite b y) = true ↔ (x.m = y.m ∧ x.q = y.q) ∧ (a = b ∨ x.m = 0) := by
    simp [same, and_assoc]
  have hvalue : x.m = y.m ∧ x.q = y.q ↔ x.value = y.value :=
    ⟨fun h => by rw [Magnitude.value, Magnitude.value, h.1, h.2], eq_of_value_eq hx hy⟩
  rw [hparts, hvalue, ← x.value_eq_zero_iff, number?, number?, Option.some.injEq]
  by_cases hsign : a = b
  · subst hsign
    cases a <;> simp
  -- with different signs both must be zero
  · have hzero : (if a then -x.value else x.value) = (if b then -y.value else y.value) ↔ x.value = 0 ∧ y.value = 0 := by
      rw [← add_eq_zero_iff_of_nonneg hxpos hypos]
      cases a with
      | false =>
        cases b with
        | false => exact absurd rfl hsign
        | true => exact eq_neg_iff_add_eq_zero
      | true =>
        cases b with
        | false => exact neg_eq_iff_add_eq_zero
        | true => exact absurd rfl hsign
    rw [hzero, or_iff_right hsign]
    exact ⟨fun h => ⟨h.2, h.1 ▸ h.2⟩, fun h => ⟨h.1.trans h.2.symm, h.1⟩⟩

end Unpacked

end Decimal

namespace Binary64

/-- the rational number that a word stands for, if it is finite -/
def number? (x : Binary64) : Option ℚ := x.unpack.number?

/-- **Floats.** Finite words are the same exactly if their numbers are. -/
theorem same_iff {x y : Binary64} (hx : x.unpack.isFinite = true) (hy : y.unpack.isFinite = true) :
    x.same y = true ↔ x.number? = y.number? := by
  rw [Binary64.same, number?, number?]
  cases hxu : x.unpack with
  | finite a m =>
    cases hyu : y.unpack with
    | finite b n => exact Decimal.Unpacked.same_finite_iff (Decimal.holds_of_unpack hxu) (Decimal.holds_of_unpack hyu)
    | nan => rw [hyu] at hy; cases hy
    | infinite b => rw [hyu] at hy; cases hy
  | nan => rw [hxu] at hx; cases hx
  | infinite a => rw [hxu] at hx; cases hx

end Binary64

end FluentSql
