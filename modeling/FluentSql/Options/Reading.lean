/-
Options from JSON: an object with the fields by name, or an array with the fields by position.

`ofJson` takes a value, `ofText` a text. A text is read from left to right and the first thing wrong with it decides: a
field of the wrong type is reported although the text may be malformed further on, a name that comes twice as soon as it
is seen. Members that are no fields are passed over. What is missing is reported at the end, in the order of the fields.
-/
import FluentSql.Json.Mismatch
import FluentSql.Options.Basic

namespace FluentSql.Options

open FluentSql.Json

/-! ## Fields -/

inductive Field where
  | host
  | port
  | user
  | password
  | database
  | maxConnections
  | connectTimeout
deriving DecidableEq, Repr

namespace Field

/-- the order of an array -/
def all : List Field := [.host, .port, .user, .password, .database, .maxConnections, .connectTimeout]

def name : Field → String
  | .host => "host"
  | .port => "port"
  | .user => "user"
  | .password => "password"
  | .database => "database"
  | .maxConnections => "max_connections"
  | .connectTimeout => "connect_timeout_secs"

def ofName? (name : String) : Option Field := all.find? (·.name == name)

/-- there is no default -/
def isRequired : Field → Bool
  | .host | .user | .database => true
  | _ => false

end Field

/-- the fields read so far -/
structure Pending where
  host : Option String := none
  port : Option UInt16 := none
  user : Option String := none
  password : Option String := none
  database : Option String := none
  maxConnections : Option UInt32 := none
  connectTimeout : Option UInt64 := none
deriving DecidableEq, Repr

namespace Pending

def has (p : Pending) : Field → Bool
  | .host => p.host.isSome
  | .port => p.port.isSome
  | .user => p.user.isSome
  | .password => p.password.isSome
  | .database => p.database.isSome
  | .maxConnections => p.maxConnections.isSome
  | .connectTimeout => p.connectTimeout.isSome

/-- read one field -/
def put (p : Pending) (f : Field) (j : Json) : Except Mismatch Pending :=
  match f with
  | .host => (readText j).map fun s => { p with host := some s }
  | .port => (readWord .uint16 j).map fun n => { p with port := some (UInt16.ofNat n.val.toNat) }
  | .user => (readText j).map fun s => { p with user := some s }
  | .password => (readText j).map fun s => { p with password := some s }
  | .database => (readText j).map fun s => { p with database := some s }
  | .maxConnections => (readWord .uint32 j).map fun n => { p with maxConnections := some (UInt32.ofNat n.val.toNat) }
  | .connectTimeout => (readWord .uint64 j).map fun n => { p with connectTimeout := some (UInt64.ofNat n.val.toNat) }

def require {α : Type} (f : Field) : Option α → Except Mismatch α
  | some x => .ok x
  | none => .error (.missing f.name)

/-- the options, with defaults for what may be missing -/
def finish (p : Pending) : Except Mismatch Options := do
  let host ← require .host p.host
  let user ← require .user p.user
  let database ← require .database p.database
  let base := ofLogin host user (p.password.getD "") database
  return { base with
    port := p.port.getD base.port
    maxConnections := p.maxConnections.getD base.maxConnections
    connectTimeout := p.connectTimeout.getD base.connectTimeout }

end Pending

/-! ## From values -/

def wanted : Wanted := .record typeName

/-- the fields among the members, in the order of the members -/
def putMembers : Pending → Members Json → Except Mismatch Pending
  | p, [] => .ok p
  | p, (name, v) :: rest =>
    match Field.ofName? name with
    | none => putMembers p rest
    | some f => do
      let p ← p.put f v
      putMembers p rest

/-- an array may end before these fields, the first of which has this index -/
def mayEnd (index : Nat) : List Field → Except Mismatch Unit
  | [] => .ok ()
  | f :: fields =>
    if f.isRequired then .error (.tooShort index wanted Field.all.length) else mayEnd (index + 1) fields

/-- items and fields side by side; gives the items that are left -/
def putItems (index : Nat) : Pending → List Field → List Json → Except Mismatch (Pending × List Json)
  | p, [], items => .ok (p, items)
  | p, fields, [] => (mayEnd index fields).map fun _ => (p, [])
  | p, f :: fields, j :: items => do
    let p ← p.put f j
    putItems (index + 1) p fields items

def ofJson : Json → Except Mismatch Options
  | .object members => do
    let p ← putMembers {} members
    p.finish
  | .array items => do
    let (p, rest) ← putItems 0 {} Field.all items
    let o ← p.finish
    if rest.isEmpty then return o else .error (.tooLong items.length)
  | j => wrongType j wanted

/-! ## From texts -/

/-- what the head of a value shows of it: of a bracket, that it opens a list or a map -/
def seen : Parser.Head → Json
  | .scalar j => j
  | .openArray => .array []
  | .openObject => .object []

section Text

-- the whole text, by which places are counted
variable (text : List Char)

def located {α : Type} (r : Except Failure α) : Except Rejection α :=
  r.mapError fun f => .malformed (.ofFailure text f)

/-- the value of a field; its head is enough to see whether it fits -/
def putHead (steps : Nat) (p : Pending) (f : Field) (s : List Char) : Except Rejection (Reading Pending) := do
  let (h, s) ← located text (Parser.head true steps s)
  let p ← (p.put f (seen h)).mapError .mismatch
  return (p, s)

/-- one member, from its name on -/
def putMember (steps : Nat) (p : Pending) (s : List Char) : Except Rejection (Reading Pending) := do
  let (name, s) ← located text (Parser.memberName true steps s)
  match Field.ofName? name with
  | some f =>
    if p.has f then .error (.mismatch (.duplicate f.name)) else
    let ((), s) ← located text (Parser.colon s)
    putHead text steps p f s
  | none =>
    let ((), s) ← located text (Parser.colon s)
    let (_, s) ← located text (Parser.value false steps steps s)
    return (p, s)

/-- members up to the closing brace, from a name on -/
def putTextMembers : Nat → Pending → List Char → Except Rejection (Reading Pending)
  | 0, _, _ => located text (failAtEnd .endInObject)
  | steps + 1, p, s => do
    let (p, s) ← putMember text steps p s
    match ← located text (Parser.nextMember s) with
    | (false, s) => return (p, s)
    | (true, s) => putTextMembers steps p s

/-- the bracket that closes an array whose fields have all been read -/
def closeArray (s : List Char) : Except Failure (Reading Unit) :=
  match Parser.skipBlanks s with
  | [] => failAtEnd .endInArray
  | ']' :: s => .ok ((), s)
  | ',' :: s =>
    match Parser.skipBlanks s with
    | ']' :: s => failAt .trailingComma (']' :: s)
    | s => failAt .afterTheEnd s
  | s => failAt .afterTheEnd s

/-- fields by position, from the place of an item on -/
def putTextItems (steps index : Nat) : Pending → List Field → List Char → Except Rejection (Reading Pending)
  | p, [], s => .ok (p, s)
  | p, f :: fields, s => do
    let (p, s) ← putHead text steps p f s
    match fields with
    | [] =>
      let ((), s) ← located text (closeArray s)
      return (p, s)
    | _ :: _ =>
      match ← located text (Parser.nextItem s) with
      | (true, s) => putTextItems steps (index + 1) p fields s
      | (false, s) =>
        (mayEnd (index + 1) fields).mapError .mismatch
        return (p, s)

def ofChars : Except Rejection Options := do
  let steps := text.length + 1
  let (h, s) ← located text (Parser.head true steps text)
  let (p, s) ← match h, Parser.skipBlanks s with
    | .scalar j, _ => (wrongType j wanted).mapError .mismatch
    | .openObject, [] => located text (failAtEnd .endInObject)
    | .openObject, '\x7d' :: s => .ok ({}, s)
    | .openObject, s => putTextMembers text steps {} s
    | .openArray, [] => located text (failAtEnd .endInArray)
    | .openArray, ']' :: s => (mayEnd 0 Field.all).mapError .mismatch |>.map fun _ => ({}, s)
    | .openArray, s => putTextItems text steps 0 {} Field.all s
  let o ← p.finish.mapError .mismatch
  located text (Parser.finish s)
  return o

end Text

def ofText (text : String) : Except Rejection Options := ofChars text.toList

end FluentSql.Options
