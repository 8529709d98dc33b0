/-
Records in an INSERT and in an UPDATE.

The two write a record along ways of their own: an INSERT lists the names and the literals apart, an UPDATE joins each
name to its literal.
- `build?_object`, `build?_set`: the texts, over the same names and the same literals.
- `Literal.render_set_eq_iff`, `Literal.render_set_of_isBool`: what differs between the places is the case of truth
  values and nothing else.
- `object_agrees_with_set`: all of it, for every form in which a record may be handed over.
-/
import FluentSql.Statement.Draft

namespace FluentSql

/-! ## Literals in two places -/

def Literal.isBool : Literal → Bool
  | .bool _ => true
  | _ => false

/-- behind SET all is written as in a VALUES list, except truth values -/
theorem Literal.render_set_eq_iff (l : Literal) : l.render .set = l.render .values ↔ l.isBool = false := by
  cases l with
  | bool b => cases b <;> decide
  | _ => exact iff_of_true rfl rfl

/-- and those are in upper case -/
theorem Literal.render_set_of_isBool {l : Literal} (h : l.isBool = true) :
    l.render .set = (l.render .values).toUpper := by
  cases l with
  | bool b => cases b <;> decide +kernel
  | _ => cases h

/-! ## Records -/

namespace Record

theorem length_names (r : Record) : r.names.length = r.length := List.length_map _

theorem length_literals (r : Record) : r.literals.length = r.length := List.length_map _

/-- the assignments of a record, by its names and its literals -/
theorem map_pairText (r : Record) :
    r.map Assignments.pairText = List.zipWith (fun n l => n ++ "=" ++ l.render .set) r.names r.literals := by
  induction r with
  | nil => rfl
  | cons p r ih => rw [List.map_cons, ih]; rfl

variable {α : Type} [ToLiteral α]

theorem names_ofPairs (pairs : List (String × α)) : (ofPairs pairs).names = pairs.map Prod.fst := by
  simp [names, ofPairs, Function.comp_def]

theorem literals_ofPairs (pairs : List (String × α)) :
    (ofPairs pairs).literals = (pairs.map Prod.snd).map ToLiteral.literal := by
  simp [literals, ofPairs, Function.comp_def]

end Record

/-! ## Statements -/

/-- the INSERT of a record: its names, then its literals -/
theorem build?_object (table : String) (r : Record) :
    (Entry.insert table).build? [.object r] =
      some ⟨.insertValues, .insert, "INSERT INTO " ++ table ++ " (" ++ ", ".intercalate r.names ++ ") VALUES (" ++
        ", ".intercalate (r.literals.map (Literal.render .values)) ++ ")"⟩ := by
  have htext : "INSERT INTO " ++ table ++ (Clause.object r).fragment = "INSERT INTO " ++ table ++ " (" ++
      ", ".intercalate r.names ++ ") VALUES (" ++ ", ".intercalate (r.literals.map (Literal.render .values)) ++ ")" := by
    have hjoin : (")" : String) ++ " VALUES (" = ") VALUES (" := rfl
    rw [← hjoin]
    simp only [Clause.fragment, Clause.columnsFragment, Clause.valuesFragment, columnText, ValueList.render,
      Literal.renderList, String.append_assoc]
  rw [← htext]
  rfl

/-- the same INSERT in two calls -/
theorem build?_columns_values (table : String) (r : Record) :
    (Entry.insert table).build? [.columns r.names, .values (.literals r.literals)] =
      (Entry.insert table).build? [.object r] := by
  have htext : "INSERT INTO " ++ table ++ (Clause.columns r.names).fragment ++
      (Clause.values (.literals r.literals)).fragment = "INSERT INTO " ++ table ++ (Clause.object r).fragment :=
    String.append_assoc
  have hobject : (Entry.insert table).build? [.object r] =
      some ⟨.insertValues, .insert, "INSERT INTO " ++ table ++ (Clause.object r).fragment⟩ := rfl
  rw [hobject, ← htext]
  rfl

/-- the UPDATE of a record: an assignment for each name and its literal -/
theorem build?_set (table : String) (r : Record) :
    (Entry.update table).build? [.set (.record r)] =
      some ⟨.updateSet, .update, "UPDATE " ++ table ++ " SET " ++
        ", ".intercalate (List.zipWith (fun n l => n ++ "=" ++ l.render .set) r.names r.literals)⟩ := by
  have htext : "UPDATE " ++ table ++ (Clause.set (.record r)).fragment = "UPDATE " ++ table ++ " SET " ++
      ", ".intercalate (List.zipWith (fun n l => n ++ "=" ++ l.render .set) r.names r.literals) := by
    rw [Clause.fragment, Assignments.render, Record.map_pairText, ← String.append_assoc]
  rw [← htext]
  rfl

/-- a record with these names and literals, as an INSERT and an UPDATE of the table write it -/
structure WrittenAlike (table : String) (r : Record) (names : List String) (literals : List Literal) : Prop where
  /-- no name without a literal, and no literal without a name -/
  paired : names.length = literals.length
  object : (Entry.insert table).build? [.object r] =
    some ⟨.insertValues, .insert, "INSERT INTO " ++ table ++ " (" ++ ", ".intercalate names ++ ") VALUES (" ++
      ", ".intercalate (literals.map (Literal.render .values)) ++ ")"⟩
  set : (Entry.update table).build? [.set (.record r)] =
    some ⟨.updateSet, .update, "UPDATE " ++ table ++ " SET " ++
      ", ".intercalate (List.zipWith (fun n l => n ++ "=" ++ l.render .set) names literals)⟩
  alike : ∀ l ∈ literals, l.render .set = l.render .values ↔ l.isBool = false
  upper : ∀ l ∈ literals, l.isBool = true → l.render .set = (l.render .values).toUpper
  /-- the columns and the values may as well be given one after the other -/
  apart : (Entry.insert table).build? [.columns names, .values (.literals literals)] =
    (Entry.insert table).build? [.object r]

theorem writtenAlike (table : String) (r : Record) : WrittenAlike table r r.names r.literals where
  paired := by rw [Record.length_names, Record.length_literals]
  object := build?_object table r
  set := build?_set table r
  alike := fun l _ => l.render_set_eq_iff
  upper := fun _ _ hbool => Literal.render_set_of_isBool hbool
  apart := build?_columns_values table r

/-- **Agreement.** Pairs in their order, pairs in a map that is sorted by name, and the members of a JSON object are
written alike by an INSERT and by an UPDATE: with the names and the converted values that stand in them, each name with
its own value and none left out, however often a name comes. -/
theorem object_agrees_with_set {α : Type} [ToLiteral α] (table : String) (pairs : List (String × α))
    (members : Members Json) :
    WrittenAlike table (.ofPairs pairs) (pairs.map Prod.fst) ((pairs.map Prod.snd).map ToLiteral.literal) ∧
      WrittenAlike table (.ofSorted pairs) (Members.sortedOfPairs pairs).names
        ((Members.sortedOfPairs pairs).values.map ToLiteral.literal) ∧
      WrittenAlike table (.ofMembers members) members.names (members.values.map Literal.ofJson) := by
  have hpairs {β : Type} [ToLiteral β] (ps : List (String × β)) :
      WrittenAlike table (.ofPairs ps) (ps.map Prod.fst) ((ps.map Prod.snd).map ToLiteral.literal) := by
    rw [← Record.names_ofPairs, ← Record.literals_ofPairs]
    exact writtenAlike table (.ofPairs ps)
  refine ⟨hpairs pairs, ?_, ?_⟩
  · exact hpairs (Members.sortedOfPairs pairs)
  · exact hpairs members

/-- a name that comes twice, with a truth value -/
example : ((Entry.update "t").build? [.set (.record [("on", .null), ("on", .bool true)])]).map (·.statement.text) =
    some "UPDATE t SET on=NULL, on=TRUE" := rfl

end FluentSql
