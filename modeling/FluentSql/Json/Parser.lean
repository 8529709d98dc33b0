/-
JSON values from text.

Values nest at most 127 deep. Of a repeated member name the first gives the place and the last the value. `parse` reads
a whole text, with blanks around the value; a fault comes with its line and column.

One member name is reserved: an object that begins with it holds nothing but a string, the embedded text, and stands for
the value that this text spells. What is wrong with an embedded text is reported with the place in that text.
-/
import FluentSql.Json.Scanner

namespace FluentSql.Json

/-- brackets that may be open at once -/
def maxDepth : Nat := 127

/-- the reserved name of an embedded text -/
def embeddedName : String := "$serde_json::private::RawValue"

namespace Parser

/-! ## Brackets -/

/-- a member's name, from the first character that is not blank -/
def memberName (keep : Bool) (steps : Nat) : List Char → Except Failure (Reading String)
  | '"' :: s => (stringBody keep steps s).map fun r => (String.ofList r.1, r.2)
  | s => failAt .keyNotAString s

/-- the colon behind a member's name -/
def colon (s : List Char) : Except Failure (Reading Unit) :=
  match skipBlanks s with
  | [] => failAtEnd .endInObject
  | ':' :: s => .ok ((), s)
  | s => failAt .noColon s

/-- what may follow an item: the end of the array, or a comma and the next item -/
def nextItem (s : List Char) : Except Failure (Reading Bool) :=
  match skipBlanks s with
  | [] => failAtEnd .endInArray
  | ']' :: s => .ok (false, s)
  | ',' :: s =>
    match skipBlanks s with
    | [] => failAtEnd .endInValue
    | ']' :: s => failAt .trailingComma (']' :: s)
    | s => .ok (true, s)
  | s => failAt .unclosedArray s

/-- what may follow a member: the end of the object, or a comma and the next member -/
def nextMember (s : List Char) : Except Failure (Reading Bool) :=
  match skipBlanks s with
  | [] => failAtEnd .endInObject
  | '\x7d' :: s => .ok (false, s)
  | ',' :: s =>
    match skipBlanks s with
    | [] => failAtEnd .endInValue
    | '\x7d' :: s => failAt .trailingComma ('\x7d' :: s)
    | s => .ok (true, s)
  | s => failAt .unclosedObject s

/-- nothing but blanks is left -/
def finish (s : List Char) : Except Failure Unit :=
  match skipBlanks s with
  | [] => .ok ()
  | s => .error (.here .afterTheEnd s 1)

/-! ## Embedded texts -/

/-- the string that holds an embedded text -/
def embeddedText (steps : Nat) (s : List Char) : Except Failure (Reading (List Char)) := do
  match ← head true steps (skipBlanks s) with
  | (.scalar (.text inner), s) => return (inner.toList, s)
  | (.scalar j, s) => .error (.here (.notEmbedded (.ofJson j)) s 0)
  | (.openArray, _) => .error (.here (.notEmbedded .sequence) (skipBlanks s) 0)
  | (.openObject, _) => .error (.here (.notEmbedded .map) (skipBlanks s) 0)

/-- the brace behind an embedded text -/
def closeEmbedded (s : List Char) : Except Failure (Reading Unit) :=
  match skipBlanks s with
  | [] => failAtEnd .endInObject
  | '\x7d' :: s => .ok ((), s)
  | ',' :: s => failAt .trailingComma (',' :: s)
  | s => failAt .afterTheEnd s

/-- the value that a whole text spells, from the reading of its beginning -/
def wholeText (text : List Char) (r : Except Failure (Reading Json)) : Except SourceFault Json :=
  (r.bind fun (j, s) => (finish s).map fun _ => j).mapError (.ofFailure text)

/-! ## Values -/

mutual

/-- the next value, with at most `depth` brackets open at once; every step reads a character, so as many steps as the
text has characters are enough -/
def value (keep : Bool) : Nat → Nat → List Char → Except Failure (Reading Json)
  | 0, _, _ => failAtEnd .endInValue
  | steps + 1, depth, s => do
    match ← head keep (steps + 1) s with
    | (.scalar j, s) => return (j, s)
    | (.openArray, s) =>
      match depth, skipBlanks s with
      | 0, _ => .error (.here .tooDeep s 0)
      | _, [] => failAtEnd .endInArray
      | _, ']' :: s => return (.array [], s)
      | depth + 1, s => do
        let (x, s) ← value keep steps depth s
        let (xs, s) ← items keep steps depth s
        return (.array (x :: xs), s)
    | (.openObject, s) =>
      match depth, skipBlanks s with
      | 0, _ => .error (.here .tooDeep s 0)
      | _, [] => failAtEnd .endInObject
      | _, '\x7d' :: s => return (.object [], s)
      | depth + 1, s => do
        let (name, s) ← memberName keep steps s
        let ((), s) ← colon s
        if keep && name == embeddedName then
          let (inner, s) ← embeddedText steps s
          let j ← (wholeText inner (value true steps maxDepth inner)).mapError .inside
          let ((), s) ← closeEmbedded s
          return (j, s)
        else
          let (v, s) ← value keep steps depth s
          let (ms, s) ← members keep steps depth s
          return (.object (Members.ofPairs ((name, v) :: ms)), s)

/-- the items behind the first, up to the closing bracket -/
def items (keep : Bool) : Nat → Nat → List Char → Except Failure (Reading (List Json))
  | 0, _, _ => failAtEnd .endInArray
  | steps + 1, depth, s => do
    match ← nextItem s with
    | (false, s) => return ([], s)
    | (true, s) => do
      let (x, s) ← value keep steps depth s
      let (xs, s) ← items keep steps depth s
      return (x :: xs, s)

/-- the members behind the first, up to the closing brace, as they stand -/
def members (keep : Bool) : Nat → Nat → List Char → Except Failure (Reading (List (String × Json)))
  | 0, _, _ => failAtEnd .endInObject
  | steps + 1, depth, s => do
    match ← nextMember s with
    | (false, s) => return ([], s)
    | (true, s) => do
      let (name, s) ← memberName keep steps s
      let ((), s) ← colon s
      let (v, s) ← value keep steps depth s
      let (ms, s) ← members keep steps depth s
      return ((name, v) :: ms, s)

end

end Parser

/-! ## Texts -/

/-- the value that the characters spell -/
def ofChars (text : List Char) : Except SourceFault Json :=
  Parser.wholeText text (Parser.value true (text.length + 1) maxDepth text)

/-- the value that a text spells -/
def parse (text : String) : Except SourceFault Json := ofChars text.toList

end FluentSql.Json
