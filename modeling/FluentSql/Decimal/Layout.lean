/-
How a finite floating-point number is laid out once its digits are chosen.

A `Layout` holds the decisions of one output: which way a tie of two equally close decimals goes, from which size on
a number is written with an exponent, and whether a whole number shows a point and a zero.
-/
import FluentSql.Decimal.Shortest

namespace FluentSql.Decimal

structure Layout where
  tie : Tie
  /-- exponents of the leading digit that are written without an exponent -/
  isPlain : Int → Bool
  /-- a whole number ends in ".0" -/
  pointZero : Bool

/-- zeros in front of a decimal place or behind a whole number -/
def zeros (n : Int) : List Char := List.replicate n.toNat '0'

/-- the digits with the point that the exponent asks for -/
def plain (pointZero : Bool) (digits : List Char) (exponent : Int) : List Char :=
  let whole := digits.length + exponent
  if 0 ≤ exponent then digits ++ zeros exponent ++ (if pointZero then ['.', '0'] else [])
  else if 0 < whole then digits.take whole.toNat ++ '.' :: digits.drop whole.toNat
  else '0' :: '.' :: (zeros (-whole) ++ digits)

/-- one digit, the others behind a point, and the signed exponent of the first -/
def scientific (digits : List Char) (leading : Int) : List Char :=
  let exponent := 'e' :: (if leading < 0 then '-' else '+') :: Nat.toDigits 10 leading.natAbs
  match digits with
  | [] => exponent
  | [d] => d :: exponent
  | d :: rest => d :: '.' :: (rest ++ exponent)

/-- the text of a number: the sign of a zero is kept -/
def Layout.write (n : Layout) (negative : Bool) (x : Magnitude) : List Char :=
  let d := shortest n.tie x
  let digits := Nat.toDigits 10 d.digits
  let leading := d.exponent + digits.length - 1
  (if negative then ['-'] else []) ++
    if n.isPlain leading then plain n.pointZero digits d.exponent else scientific digits leading

end FluentSql.Decimal
