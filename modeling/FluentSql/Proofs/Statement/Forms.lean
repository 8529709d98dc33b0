/-
Forms in which the same arguments may be handed over.

A list of names comes as a list, an array, a tuple or one text (`NameForm`), a list of JSON values as a JSON array, as
literals or as one text, and a value that is no array also by itself (`ValueForm`), a record as pairs, as a JSON object, as
finished assignments or as one text (`AssignmentForm`). Each has a lemma that says what it is written as, whatever the
form.
- `Clause.Alike`, `Entry.Alike`: calls that differ in the form of their arguments alone.
- `build?_alike`: such calls build the same statement, however many of them there are in a sequence and at any place.
-/
import FluentSql.Proofs.Members
import FluentSql.Proofs.Statement.Records
import FluentSql.Proofs.Statement.Unambiguous

namespace FluentSql

/-! ## Names -/

/-- the entries that each form of a list of names gives -/
inductive NameForm : (names entries : List String) → Prop where
  | list (names : List String) : NameForm names (ToColumns.columns names)
  | array (names : List String) : NameForm names (ToColumns.columns names.toArray)
  | two (a b : String) : NameForm [a, b] (ToColumns.columns (a, b))
  | three (a b c : String) : NameForm [a, b, c] (ToColumns.columns (a, b, c))
  | four (a b c d : String) : NameForm [a, b, c, d] (ToColumns.columns (a, b, c, d))
  | five (a b c d e : String) : NameForm [a, b, c, d, e] (ToColumns.columns (a, b, c, d, e))
  /-- one text with all of them -/
  | text (names : List String) : NameForm names (ToColumns.columns (", ".intercalate names))

theorem NameForm.columnText_eq {names entries : List String} (h : NameForm names entries) :
    columnText entries = ", ".intercalate names := by
  cases h with
  | text => exact String.intercalate_singleton
  | _ => rfl

/-! ## Values -/

/-- the bodies of a VALUES list that each form of a list of JSON values gives -/
inductive ValueForm : (items : List Json) → ValueList → Prop where
  | array (items : List Json) : ValueForm items (.ofJson (.array items))
  | documents (items : List Json) : ValueForm items (.ofList items)
  | literals (items : List Json) : ValueForm items (.ofList (items.map Literal.ofJson))
  /-- one text with all of them as they are written -/
  | text (items : List Json) :
    ValueForm items (.text (", ".intercalate (items.map fun j => (Literal.ofJson j).render .values)))
  /-- a value by itself, for the array with nothing else in it -/
  | single {j : Json} (h : ∀ items, j ≠ .array items) : ValueForm [j] (.ofJson j)

theorem ValueForm.render_eq {items : List Json} {list : ValueList} (h : ValueForm items list) :
    list.render = ", ".intercalate (items.map fun j => (Literal.ofJson j).render .values) := by
  have hdocuments : (ValueList.ofList items).render =
      ", ".intercalate (items.map fun j => (Literal.ofJson j).render .values) := by
    rw [ValueList.ofList, ValueList.render, Literal.renderList, List.map_map]
    rfl
  cases h with
  | array => exact hdocuments
  | documents => exact hdocuments
  | literals =>
    rw [← hdocuments, ValueList.ofList, List.map_map]
    rfl
  | text => rfl
  | @single j h =>
    have hofJson : ValueList.ofJson j = .ofList [j] := by
      cases j with
      | array items => exact absurd rfl (h items)
      | _ => rfl
    rw [hofJson, hdocuments]

/-! ## Assignments -/

/-- the assignments that each form of a record gives -/
inductive AssignmentForm : Record → Assignments → Prop where
  | pairs {α : Type} [ToLiteral α] (ps : List (String × α)) : AssignmentForm (.ofPairs ps) (.record (.ofPairs ps))
  /-- an object into which members were put in that order; the width of an integer does not count -/
  | members {r : Record} {ms : List (String × Json)} (hnames : r.names.Nodup)
      (h : List.Forall₂ Assignments.PairAgrees (Record.ofMembers ms) r) :
    AssignmentForm r (.record (.ofMembers (Members.ofPairs ms)))
  /-- a text for each -/
  | list (r : Record) : AssignmentForm r (.list (r.map fun p => p.1 ++ "=" ++ p.2.render .set))
  /-- one text with all of them -/
  | text (r : Record) : AssignmentForm r (.text (", ".intercalate (r.map fun p => p.1 ++ "=" ++ p.2.render .set)))

theorem names_eq_of_pairAgrees {r r' : Record} (h : List.Forall₂ Assignments.PairAgrees r r') : r.names = r'.names := by
  induction h with
  | nil => rfl
  | cons hp _ ih => exact congrArg₂ List.cons hp.1 ih

theorem AssignmentForm.render_eq {r : Record} {a : Assignments} (h : AssignmentForm r a) :
    a.render = ", ".intercalate (r.map Assignments.pairText) := by
  cases h with
  | members hnames h =>
    rw [← names_eq_of_pairAgrees h, Record.ofMembers, Record.names_ofPairs] at hnames
    rw [Members.ofPairs_of_nodup hnames, Assignments.render, Assignments.known_pairText.map_eq_of_forall₂ h]
  | _ => rfl

/-! ## Calls -/

/-- two clauses that differ in the form of their arguments, if they differ -/
inductive Clause.Alike : Clause → Clause → Prop where
  | same (c : Clause) : Alike c c
  | columns {names entries entries' : List String} (h : NameForm names entries) (h' : NameForm names entries') :
    Alike (.columns entries) (.columns entries')
  | values {items : List Json} {list list' : ValueList} (h : ValueForm items list) (h' : ValueForm items list') :
    Alike (.values list) (.values list')
  | set {r : Record} {a a' : Assignments} (h : AssignmentForm r a) (h' : AssignmentForm r a') :
    Alike (.set a) (.set a')

/-- and two beginnings -/
inductive Entry.Alike : Entry → Entry → Prop where
  | same (e : Entry) : Alike e e
  | select {names entries entries' : List String} (h : NameForm names entries) (h' : NameForm names entries') :
    Alike (.select entries) (.select entries')

namespace Clause.Alike

variable {c c' : Clause}

theorem fragment_eq (h : c.Alike c') : c.fragment = c'.fragment := by
  cases h with
  | same => rfl
  | columns h h' => rw [fragment, fragment, columnsFragment, columnsFragment, h.columnText_eq, h'.columnText_eq]
  | values h h' => rw [fragment, fragment, valuesFragment, valuesFragment, h.render_eq, h'.render_eq]
  | set h h' => rw [fragment, fragment, h.render_eq, h'.render_eq]

/-- a stage offers a clause whatever its arguments -/
theorem after?_eq (h : c.Alike c') (s : Stage) : s.after? c = s.after? c' := by
  cases h <;> cases s <;> rfl

theorem extend?_eq (h : c.Alike c') (d : Draft) : d.extend? c = d.extend? c' := by
  rw [Draft.extend?, Draft.extend?, h.after?_eq, h.fragment_eq]

end Clause.Alike

theorem Entry.Alike.draft_eq {e e' : Entry} (h : e.Alike e') : e.draft = e'.draft := by
  cases h with
  | same => rfl
  | select h h' => rw [Entry.draft, Entry.draft, h.columnText_eq, h'.columnText_eq]

/-- **Forms.** Sequences of calls that differ in the form of their arguments alone are accepted alike and build the same
statement, with the same text. -/
theorem build?_alike {e e' : Entry} {cs cs' : List Clause} (he : e.Alike e') (hcs : List.Forall₂ Clause.Alike cs cs') :
    e.build? cs = e'.build? cs' := by
  have hrun (d : Draft) : cs.foldlM Draft.extend? d = cs'.foldlM Draft.extend? d := by
    induction hcs generalizing d with
    | nil => rfl
    | cons hc _ ih =>
      rw [List.foldlM_cons, List.foldlM_cons, hc.extend?_eq]
      exact congrArg (_ >>= ·) (funext ih)
  rw [Entry.build?, Entry.build?, he.draft_eq, hrun]

/-- a tuple for a text and a JSON array for a text, with a string in it that is quoted; an object for its assignments, with
an integer of another width -/
theorem build?_alike_of_texts :
    let items : List Json := [.text "x, y", .array [.null]]
    let members : List (String × Json) := [("n", .int ⟨7, by decide, by decide⟩), ("on", .bool true)]
    let lists : List Clause := [.columns (ToColumns.columns ("a", "b")), .values (.ofJson (.array items))]
    let texts : List Clause := [.columns (ToColumns.columns "a, b"), .values (.text "\"x, y\", [null]")]
    let object : List Clause := [.set (.record (.ofMembers (Members.ofPairs members))), .where "id=1"]
    let assignments : List Clause := [.set (.list ["n=7", "on=TRUE"]), .where "id=1"]
    (Entry.Alike (.insert "t") (.insert "t") ∧ List.Forall₂ Clause.Alike lists texts ∧
      (Entry.insert "t").build? lists = (Entry.insert "t").build? texts ∧
      (Entry.insert "t").build? lists =
        some ⟨.insertValues, .insert, "INSERT INTO t (a, b) VALUES (\"x, y\", [null])"⟩) ∧
    (List.Forall₂ Clause.Alike object assignments ∧
      (Entry.update "t").build? object = (Entry.update "t").build? assignments ∧
      (Entry.update "t").build? object =
        some ⟨.updateWhere, .update, "UPDATE t SET n=7, on=TRUE WHERE id=1"⟩) := by
  intro items members lists texts object assignments
  have hlists : List.Forall₂ Clause.Alike lists texts :=
    .cons (.columns (.two "a" "b") (.text ["a", "b"])) (.cons (.values (.array items) (.text items)) .nil)
  have hagree : List.Forall₂ Assignments.PairAgrees (Record.ofMembers members) [("n", .int32 7), ("on", .bool true)] :=
    .cons ⟨rfl, .inr ⟨7, rfl, rfl⟩⟩ (.cons ⟨rfl, .inl rfl⟩ .nil)
  have hobject : List.Forall₂ Clause.Alike object assignments :=
    .cons (.set (.members (by decide) hagree) (.list _)) (.cons (.same _) .nil)
  have hinsert := build?_alike (.same (.insert "t")) hlists
  have hupdate := build?_alike (.same (.update "t")) hobject
  -- the texts are read off the forms that are texts already
  exact ⟨⟨.same _, hlists, hinsert, hinsert.trans rfl⟩, hobject, hupdate, hupdate.trans rfl⟩

end FluentSql
