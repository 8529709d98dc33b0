/-
The compact text of a JSON value: no blanks, members in their order.

In strings only the quotation mark, the backslash and the control characters below U+0020 are escaped, the control
characters by a letter where they have one and by four hexadecimal digits otherwise. Floats have the fewest digits that
identify them, a tie going to the even digit, and an exponent below 10^-5 and from 10^16 on.
-/
import FluentSql.Json.Basic
import FluentSql.Decimal.Layout

namespace FluentSql.Json

/-! ## Scalars -/

/-- how floats are written -/
def floatLayout : Decimal.Layout where
  tie := .even
  isPlain e := decide (-5 ≤ e ∧ e < 16)
  pointZero := true

/-- the text of a float; what is not finite has none and shows as null -/
def floatChars (x : Binary64) : List Char :=
  match x.unpack with
  | .finite negative m => floatLayout.write negative m
  | _ => ['n', 'u', 'l', 'l']

/-- one character between the quotation marks -/
def escaped (c : Char) : List Char :=
  match c with
  | '"' => ['\\', '"']
  | '\\' => ['\\', '\\']
  | '\x08' => ['\\', 'b']
  | '\t' => ['\\', 't']
  | '\n' => ['\\', 'n']
  | '\x0c' => ['\\', 'f']
  | '\r' => ['\\', 'r']
  | c =>
    if c.toNat < 0x20 then
      ['\\', 'u', '0', '0', Nat.digitChar (c.toNat / 16), Nat.digitChar (c.toNat % 16)]
    else [c]

def stringChars (s : String) : List Char := '"' :: (s.toList.flatMap escaped ++ ['"'])

/-! ## Values -/

mutual

def chars : Json → List Char
  | .null => ['n', 'u', 'l', 'l']
  | .bool true => ['t', 'r', 'u', 'e']
  | .bool false => ['f', 'a', 'l', 's', 'e']
  | .int n => n.val.repr.toList
  | .float x => floatChars x
  | .text s => stringChars s
  | .array [] => ['[', ']']
  | .array (x :: xs) => '[' :: (chars x ++ itemChars xs)
  | .object [] => ['\x7b', '\x7d']
  | .object ((name, v) :: ms) => '\x7b' :: (stringChars name ++ ':' :: (chars v ++ memberChars ms))

/-- the items after the first, and the closing bracket -/
def itemChars : List Json → List Char
  | [] => [']']
  | x :: xs => ',' :: (chars x ++ itemChars xs)

/-- the members after the first, and the closing brace -/
def memberChars : List (String × Json) → List Char
  | [] => ['\x7d']
  | (name, v) :: ms => ',' :: (stringChars name ++ ':' :: (chars v ++ memberChars ms))

end

/-- the compact text -/
def compact (j : Json) : String := String.ofList j.chars

end FluentSql.Json
