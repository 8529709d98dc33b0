/-
What can be wrong with a JSON text, and where.

A `Failure` keeps what was left of the text when the fault showed; its place is counted from that afterwards, in bytes
of UTF-8: `SourceFault.ofFailure` gives the line and the bytes read on that line.
-/
import FluentSql.Json.Typing

namespace FluentSql.Json

/-! ## Faults -/

inductive Fault where
  | endInValue
  | endInArray
  | endInObject
  | endInString
  | notAValue
  | notAWord
  | afterTheEnd
  | trailingComma
  | keyNotAString
  | badNumber
  | numberTooLarge
  | unclosedArray
  | unclosedObject
  | noColon
  | badEscape
  | loneSurrogate
  | brokenPair
  | controlCharacter
  | tooDeep
  /-- something else stands where a JSON text inside a string is wanted -/
  | notEmbedded (found : Found)
deriving DecidableEq, Repr

def Fault.message : Fault → String
  | .endInValue => "EOF while parsing a value"
  | .endInArray => "EOF while parsing a list"
  | .endInObject => "EOF while parsing an object"
  | .endInString => "EOF while parsing a string"
  | .notAValue => "expected value"
  | .notAWord => "expected ident"
  | .afterTheEnd => "trailing characters"
  | .trailingComma => "trailing comma"
  | .keyNotAString => "key must be a string"
  | .badNumber => "invalid number"
  | .numberTooLarge => "number out of range"
  | .unclosedArray => "expected `,` or `]`"
  | .unclosedObject => "expected `,` or `\x7d`"
  | .noColon => "expected `:`"
  | .badEscape => "invalid escape"
  | .loneSurrogate => "lone leading surrogate in hex escape"
  | .brokenPair => "unexpected end of hex escape"
  | .controlCharacter => "control character (\\u0000-\\u001F) found while parsing a string"
  | .tooDeep => "recursion limit exceeded"
  | .notEmbedded found => wrongTypeText found .embedded

/-- the text is the start of a longer one that may be right -/
def Fault.isEnd : Fault → Bool
  | .endInValue | .endInArray | .endInObject | .endInString => true
  | _ => false

/-! ## Places -/

/-- a fault and its place: the line, from 1, and the bytes read on it -/
structure SourceFault where
  fault : Fault
  line : Nat
  column : Nat
deriving DecidableEq, Repr

def SourceFault.message (f : SourceFault) : String :=
  f.fault.message ++ " at line " ++ f.line.repr ++ " column " ++ f.column.repr

inductive Failure where
  /-- the fault showed in front of `rest`, of which the first `ahead` bytes count as read -/
  | here (fault : Fault) (rest : List Char) (ahead : Nat)
  /-- the fault is one of an embedded text, where it has its place -/
  | inside (f : SourceFault)
deriving DecidableEq, Repr

def byteLength : List Char → Nat
  | [] => 0
  | c :: s => c.utf8Size + byteLength s

/-- line and bytes on that line after so many bytes -/
def placeAfter : Nat → List Char → Nat × Nat → Nat × Nat
  | 0, _, place => place
  | _, [], place => place
  | n + 1, c :: s, (line, column) =>
    if c = '\n' then placeAfter n s (line + 1, 0)
    else placeAfter (n + 1 - c.utf8Size) s (line, column + min (n + 1) c.utf8Size)

/-- line and bytes read on it, where this is left of a text and so many bytes of it count as read -/
def place (text rest : List Char) (ahead : Nat) : Nat × Nat :=
  placeAfter (min (byteLength text) (byteLength text - byteLength rest + ahead)) text (1, 0)

/-- the fault of a failure in a text -/
def SourceFault.ofFailure (text : List Char) : Failure → SourceFault
  | .here fault rest ahead => ⟨fault, (place text rest ahead).1, (place text rest ahead).2⟩
  | .inside f => f

/-! ## Reading -/

/-- what was read of a text, and what is left of it -/
abbrev Reading (α : Type) := α × List Char

/-- the fault shows at the next character, which counts as read -/
def failAt {α : Type} (fault : Fault) (rest : List Char) : Except Failure (Reading α) := .error (.here fault rest 1)

/-- the text ended too early -/
def failAtEnd {α : Type} (fault : Fault) : Except Failure (Reading α) := .error (.here fault [] 0)

end FluentSql.Json
