/-
The fewest decimal digits that identify a floating-point number.

A decimal identifies the number if it lies in the interval of reals that round to it: halfway to the neighbour on either
side, the ends included when the significand is even. `shortest` tries the grids of 1, 2, .. significant digits; the
first with a point in the interval wins, of two such points the nearer, and an exact tie goes as the caller asks.
-/
import FluentSql.Decimal.Binary

namespace FluentSql

/-- the number digits * 10^exponent -/
structure Decimal where
  digits : Nat
  exponent : Int
deriving DecidableEq, Repr

namespace Decimal

/-- where two decimals of the same length are equally close, which one is written -/
inductive Tie where
  | even
  | up
deriving DecidableEq, Repr

/-! ## Comparing -/

/-- a * 10^i against n * 2^j, exactly -/
def compareScaled (a : Nat) (i : Int) (n : Nat) (j : Int) : Ordering :=
  compare (a * pow10 i * pow2 (-j)) (n * pow2 j * pow10 (-i))

/-- the decimal lies among the reals that round to x -/
def identifies (d : Decimal) (x : Magnitude) : Bool :=
  -- both ends in quarters of the last bit
  let low := if x.narrowBelow then 4 * x.m - 1 else 4 * x.m - 2
  let high := 4 * x.m + 2
  let closed := x.m % 2 == 0
  let above := compareScaled d.digits d.exponent low (x.q - 2)
  let below := compareScaled d.digits d.exponent high (x.q - 2)
  (above == .gt || closed && above == .eq) && (below == .lt || closed && below == .eq)

/-! ## Searching -/

/-- The least k with x < 10^k, for x not zero: the binary logarithm, in decimal places, is off by two at most. -/
def scale (x : Magnitude) : Int :=
  let guess := (((Nat.log2 x.m : Int) + x.q) * 30103).fdiv 100000
  let tries := [guess - 1, guess, guess + 1, guess + 2]
  (tries.find? fun k => compareScaled 1 k x.m x.q == .gt).getD (guess + 3)

/-- the decimal of n significant digits next to x that identifies it, if there is one -/
def onGrid? (tie : Tie) (x : Magnitude) (k : Int) (n : Nat) : Option Decimal :=
  let grid := k - n
  let floor := x.m * pow2 x.q * pow10 (-grid) / (pow2 (-x.q) * pow10 grid)
  let below : Decimal := ⟨floor, grid⟩
  let above : Decimal := ⟨floor + 1, grid⟩
  match below.identifies x, above.identifies x with
  | false, false => none
  | true, false => some below
  | false, true => some above
  | true, true =>
    -- the midpoint of the two against x
    match compareScaled (2 * floor + 1) grid (2 * x.m) x.q, tie with
    | .gt, _ => some below
    | .lt, _ => some above
    | .eq, .up => some above
    | .eq, .even => some (if floor % 2 = 0 then below else above)

/-- drop zeros at the end, `places` of them at most -/
def stripped : Nat → Decimal → Decimal
  | 0, d => d
  | places + 1, d => if d.digits % 10 = 0 then stripped places ⟨d.digits / 10, d.exponent + 1⟩ else d

/-- all digits of x: what is left if no short decimal identifies it -/
def exact (x : Magnitude) : Decimal := ⟨x.m * pow2 x.q * pow10 (-x.q) / pow2 (-x.q), min x.q 0⟩

/-- the digits that are written for x; zero is one digit -/
def shortest (tie : Tie) (x : Magnitude) : Decimal :=
  if x.m = 0 then ⟨0, 0⟩
  else stripped 17 (((List.range 17).findSome? fun n => onGrid? tie x (scale x) (n + 1)).getD (exact x))

end Decimal

end FluentSql
