/-
The parts of a JSON text that hold no other values: blanks, words, strings and numbers.

A scalar may be read to be kept or to be passed over (`keep`): passing over does not hold it to what only its value
needs, that surrogates come in pairs and that a number is finite; and a number that the end of the text cuts off is a
bad one then, not an unfinished one. `head` reads a scalar, or the bracket that opens an array or an object.
-/
import FluentSql.Json.Basic
import FluentSql.Json.Fault
import FluentSql.Text.Hex

namespace FluentSql.Json.Parser

open FluentSql.Text

def isBlank (c : Char) : Bool := c == ' ' || c == '\n' || c == '\t' || c == '\r'

def skipBlanks (s : List Char) : List Char := s.dropWhile isBlank

/-! ## Words -/

/-- the rest of null, true or false -/
def word (value : Json) : List Char → List Char → Except Failure (Reading Json)
  | [], s => .ok (value, s)
  | _ :: _, [] => failAtEnd .endInValue
  | w :: ws, c :: s => if c = w then word value ws s else failAt .notAWord (c :: s)

/-! ## Strings -/

/-- the four digits of a numeric escape -/
def unit (s : List Char) : Except Failure (Reading Nat) :=
  if byteLength (s.take 4) < 4 then failAtEnd .endInString
  else match Hex.number? (s.take 4) with
    | some n => .ok (n, s.drop 4)
    | none => .error (.here .badEscape s 4)

/-- The second half of a surrogate pair, `high` being the first. -/
def lowHalf (high : Nat) : List Char → Except Failure (Reading Char)
  | [] => failAtEnd .endInString
  | ['\\'] => failAtEnd .endInString
  | '\\' :: 'u' :: s => do
    let (low, s) ← unit s
    if 0xDC00 ≤ low ∧ low ≤ 0xDFFF then
      return (Char.ofNat (0x10000 + (high - 0xD800) * 0x400 + (low - 0xDC00)), s)
    else .error (.here .loneSurrogate s 0)
  | '\\' :: s => failAt .brokenPair s
  | s => failAt .brokenPair s

/-- what stands behind a backslash -/
def escape (keep : Bool) : List Char → Except Failure (Reading Char)
  | [] => failAtEnd .endInString
  | '"' :: s => .ok ('"', s)
  | '\\' :: s => .ok ('\\', s)
  | '/' :: s => .ok ('/', s)
  | 'b' :: s => .ok ('\x08', s)
  | 'f' :: s => .ok ('\x0c', s)
  | 'n' :: s => .ok ('\n', s)
  | 'r' :: s => .ok ('\r', s)
  | 't' :: s => .ok ('\t', s)
  | 'u' :: s => do
    let (n, s) ← unit s
    if n < 0xD800 ∨ 0xDFFF < n then return (Char.ofNat n, s)
    else if !keep then return ('\uFFFD', s)
    else if 0xDC00 ≤ n then .error (.here .loneSurrogate s 0)
    else lowHalf n s
  | s => failAt .badEscape s

/-- the characters up to the closing quotation mark; a string has at most as many as the text, which bounds the steps -/
def stringBody (keep : Bool) : Nat → List Char → Except Failure (Reading (List Char))
  | _, [] => failAtEnd .endInString
  | _, '"' :: s => .ok ([], s)
  | 0, _ :: _ => failAtEnd .endInString
  | steps + 1, '\\' :: s => do
    let (c, s) ← escape keep s
    let (cs, s) ← stringBody keep steps s
    return (c :: cs, s)
  | steps + 1, c :: s =>
    if c.toNat < 0x20 then .error (.here .controlCharacter s 0)
    else do
      let (cs, s) ← stringBody keep steps s
      return (c :: cs, s)

/-! ## Numbers -/

/-- what is wrong with a number that the end of the text cuts off -/
def cutOff (keep : Bool) : Fault := if keep then .endInValue else .badNumber

/-- the digits before the point: a zero stands alone -/
def wholePart (keep : Bool) : List Char → Except Failure (Reading (List Char))
  | [] => failAtEnd (cutOff keep)
  | '0' :: s =>
    match s with
    | c :: _ => if c.isDigit then failAt .badNumber s else .ok (['0'], s)
    | [] => .ok (['0'], [])
  | c :: s =>
    if c.isDigit then .ok (c :: s.takeWhile Char.isDigit, s.dropWhile Char.isDigit)
    else failAt .badNumber (c :: s)

/-- the digits behind the point, if there is one; then one digit at least -/
def fractionPart (keep : Bool) : List Char → Except Failure (Reading (Option (List Char)))
  | '.' :: s =>
    match s with
    | [] => failAtEnd (cutOff keep)
    | c :: _ =>
      if c.isDigit then .ok (some (s.takeWhile Char.isDigit), s.dropWhile Char.isDigit)
      else failAt .badNumber s
  | s => .ok (none, s)

/-- the digits that fit a bound, read from the left, and those that do not -/
def absorb (bound : Nat) : Nat → List Char → Nat × List Char
  | n, [] => (n, [])
  | n, c :: s =>
    if n * 10 + (c.toNat - 48) < bound then absorb bound (n * 10 + (c.toNat - 48)) s else (n, c :: s)

/-- The exponent, if there is one. From 2^31 on it makes a number too large unless it is zero or passed over, which
shows at the digit that passes the bound; below zero it makes it zero. -/
def exponentPart (keep isZero : Bool) : List Char → Except Failure (Reading (Option Int))
  | [] => .ok (none, [])
  | c :: s =>
    if c = 'e' ∨ c = 'E' then
      let (down, s) := match s with
        | '+' :: s => (false, s)
        | '-' :: s => (true, s)
        | s => (false, s)
      match s with
      | [] => failAtEnd (cutOff keep)
      | d :: _ =>
        if d.isDigit then
          let digits := s.takeWhile Char.isDigit
          let (n, tooMany) := absorb 0x80000000 0 digits
          match tooMany, keep && !isZero && !down with
          | _ :: more, true => .error (.here .numberTooLarge (more ++ s.dropWhile Char.isDigit) 0)
          | [], _ => .ok (some (if down then -n else n), s.dropWhile Char.isDigit)
          | _ :: _, false => .ok (some (if down then -0x80000000 else 0x80000000), s.dropWhile Char.isDigit)
        else failAt .badNumber s
    else .ok (none, c :: s)

/-- significand * 10^exponent: the significand becomes a float, which is multiplied or divided by a power of ten that is
one too, the largest being 10^308. Each step rounds, so the last bit may differ from the nearest float. -/
def scaleByTen (significand : Nat) (exponent : Int) : Option Binary64 :=
  let x := Binary64.ofNat significand
  let ten (n : Int) := Binary64.ofNat (Decimal.pow10 n)
  if significand = 0 then some x
  else if 308 < exponent then none
  else if 0 ≤ exponent then
    let y := x.mul (ten exponent)
    if y.isInfinite then none else some y
  else if -308 ≤ exponent then some (x.div (ten (-exponent)))
  else if -616 ≤ exponent then some ((x.div (ten 308)).div (ten (-exponent - 308)))
  else some (Binary64.ofNat 0)

/-- The value of a number by its parts. It is an integer if it has neither point nor exponent and fits a word; a minus
sign before zero makes a float. Digits that no longer fit 64 bits only count as places. -/
def numberValue? (negative : Bool) (whole : List Char) (fraction : Option (List Char)) (exponent : Option Int) :
    Option Json :=
  let (n, places) := absorb 0x10000000000000000 0 whole
  let integer? :=
    if fraction.isSome || exponent.isSome || !places.isEmpty || (negative && n == 0) then none
    else WordInt.ofInt? (if negative then -n else n)
  match integer? with
  | some k => some (.int k)
  | none =>
    let decimals := fraction.getD []
    let (m, dropped) := absorb 0x10000000000000000 n decimals
    let shift : Int := places.length - (decimals.length - dropped.length) + exponent.getD 0
    (scaleByTen m shift).map fun x => .float (if negative then x.neg else x)

/-- a number, behind its sign -/
def number (keep negative : Bool) (s : List Char) : Except Failure (Reading Json) := do
  let (whole, s) ← wholePart keep s
  let (fraction, s) ← fractionPart keep s
  let isZero := (whole ++ fraction.getD []).all (· == '0')
  let (exponent, s) ← exponentPart keep isZero s
  match numberValue? negative whole fraction exponent with
  | some v => return (v, s)
  | none => if keep then .error (.here .numberTooLarge s 0) else return (.null, s)

/-! ## Heads -/

/-- what a value begins with: all of it, or the bracket that opens it -/
inductive Head where
  | scalar (j : Json)
  | openArray
  | openObject
deriving Repr

/-- the head of the next value; `steps` is at least the length of the text -/
def head (keep : Bool) (steps : Nat) (s : List Char) : Except Failure (Reading Head) :=
  match skipBlanks s with
  | [] => failAtEnd .endInValue
  | 'n' :: s => (word .null ['u', 'l', 'l'] s).map fun r => (.scalar r.1, r.2)
  | 't' :: s => (word (.bool true) ['r', 'u', 'e'] s).map fun r => (.scalar r.1, r.2)
  | 'f' :: s => (word (.bool false) ['a', 'l', 's', 'e'] s).map fun r => (.scalar r.1, r.2)
  | '"' :: s => (stringBody keep steps s).map fun r => (.scalar (.text (String.ofList r.1)), r.2)
  | '[' :: s => .ok (.openArray, s)
  | '\x7b' :: s => .ok (.openObject, s)
  | '-' :: s => (number keep true s).map fun r => (.scalar r.1, r.2)
  | c :: s =>
    if c.isDigit then (number keep false (c :: s)).map fun r => (.scalar r.1, r.2)
    else failAt .notAValue (c :: s)

end FluentSql.Json.Parser
