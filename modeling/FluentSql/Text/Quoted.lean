/-
A text in double quotes, as it is shown to a developer: quotation mark, backslash, NUL, tab, line feed and carriage
return are escaped by a backslash and a letter, every other character that does not print as itself by its number in
braces, in hexadecimal without leading zeros. An apostrophe is not escaped.
-/
import FluentSql.Text.Printable

namespace FluentSql.Text

/-- how one character is shown between the quotation marks -/
def shown : Char → List Char
  | '"' => ['\\', '"']
  | '\\' => ['\\', '\\']
  | '\x00' => ['\\', '0']
  | '\t' => ['\\', 't']
  | '\n' => ['\\', 'n']
  | '\r' => ['\\', 'r']
  | c => if isPrintable c then [c] else ['\\', 'u', '\x7b'] ++ Nat.toDigits 16 c.toNat ++ ['\x7d']

/-- the text between quotation marks, escaped where it has to be -/
def quoted (s : String) : String := String.ofList ('"' :: s.toList.flatMap shown ++ ['"'])

end FluentSql.Text
