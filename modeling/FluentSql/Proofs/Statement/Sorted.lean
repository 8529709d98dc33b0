/-
Records that come as maps sorted by name.

The pairs are put into the map one by one, in any order and a name as often as one likes. What is written tells only which
value each name has in the end:
- `Record.ofSorted_eq`: pairs with the same last values are the same record.
- `sorted_written`: an INSERT and an UPDATE write that record name by name, the names ascending by their characters and by
  their bytes, and with each name its last value.
-/
import FluentSql.Proofs.Members
import FluentSql.Proofs.Statement.Records
import FluentSql.Proofs.Text.Order

namespace FluentSql

open Text

variable {α : Type} [ToLiteral α]

/-- two sequences of pairs leave each name with the same value, if with any -/
def Record.SameInTheEnd (ps qs : List (String × α)) : Prop :=
  ∀ name, Members.latest? name ps = Members.latest? name qs

theorem Record.ofSorted_eq {ps qs : List (String × α)} (h : SameInTheEnd ps qs) : ofSorted ps = ofSorted qs :=
  congrArg ofPairs (Members.sortedOfPairs_eq_of_latest? h)

/-- the members as which an INSERT and an UPDATE of the table write pairs that were put into a sorted map -/
structure WrittenSorted (table : String) (ps : List (String × α)) (ms : Members α) : Prop where
  /-- the last value of each name, and nothing else -/
  latest : ∀ name v, (name, v) ∈ ms ↔ Members.latest? name ps = some v
  /-- no name comes twice, and each is larger than those in front of it, character by character -/
  ascending : ms.names.Pairwise (· < ·)
  /-- and byte by byte -/
  ascendingBytes : (ms.names.map Utf8.encode).Pairwise (· < ·)
  object : (Entry.insert table).build? [.object (.ofSorted ps)] =
    some ⟨.insertValues, .insert, "INSERT INTO " ++ table ++ " (" ++ ", ".intercalate ms.names ++ ") VALUES (" ++
      ", ".intercalate (ms.values.map fun v => (ToLiteral.literal v).render .values) ++ ")"⟩
  set : (Entry.update table).build? [.set (.record (.ofSorted ps))] =
    some ⟨.updateSet, .update, "UPDATE " ++ table ++ " SET " ++
      ", ".intercalate (ms.map fun m => m.1 ++ "=" ++ (ToLiteral.literal m.2).render .set)⟩

theorem writtenSorted (table : String) (ps : List (String × α)) :
    WrittenSorted table ps (Members.sortedOfPairs ps) := by
  have hascending := Members.ascending_sortedOfPairs ps
  refine ⟨fun name v => ?_, hascending.pairwise_names, ?_, ?_, ?_⟩
  · rw [← Members.lookup?_eq_some_iff hascending.nodup, Members.lookup?_sortedOfPairs]
  · exact List.pairwise_map.2 (hascending.pairwise_names.imp (Utf8.encode_lt_iff _ _).2)
  · rw [build?_object, Record.ofSorted, Record.names_ofPairs, Record.literals_ofPairs, List.map_map]
    rfl
  · rw [build?_set, ← Record.map_pairText, Record.ofSorted, Record.ofPairs, List.map_map]
    rfl

/-- **Sorted maps.** Two sequences of pairs that leave the same values are written alike, whatever their order and whatever
was overwritten: each name once, the names ascending, and with each name the value that was put last. -/
theorem sorted_written (table : String) {ps qs : List (String × α)} (h : Record.SameInTheEnd ps qs) :
    (Entry.insert table).build? [.object (.ofSorted ps)] = (Entry.insert table).build? [.object (.ofSorted qs)] ∧
      (Entry.update table).build? [.set (.record (.ofSorted ps))] =
        (Entry.update table).build? [.set (.record (.ofSorted qs))] ∧
      ∃ ms, WrittenSorted table ps ms ∧ WrittenSorted table qs ms := by
  refine ⟨by rw [Record.ofSorted_eq h], by rw [Record.ofSorted_eq h], Members.sortedOfPairs ps, writtenSorted table ps, ?_⟩
  rw [Members.sortedOfPairs_eq_of_latest? h]
  exact writtenSorted table qs

/-- two orders, a name put twice in either, and two names that units of sixteen bits would order the other way -/
theorem sorted_written_overwritten :
    let ps : List (String × Literal) := [("😀", .int32 1), ("\uffff", .text "x"), ("a", .null), ("\uffff", .bool true)]
    let qs : List (String × Literal) := [("a", .null), ("\uffff", .bool true), ("😀", .null), ("😀", .int32 1)]
    Record.SameInTheEnd ps qs ∧
      (Entry.insert "t").build? [.object (.ofSorted ps)] = (Entry.insert "t").build? [.object (.ofSorted qs)] ∧
      (Entry.update "t").build? [.set (.record (.ofSorted ps))] =
        (Entry.update "t").build? [.set (.record (.ofSorted qs))] ∧
      ∃ ms, WrittenSorted "t" ps ms ∧ WrittenSorted "t" qs ms := by
  intro ps qs
  have hsame : Record.SameInTheEnd ps qs := by
    intro name
    simp only [ps, qs, Members.latest?, List.reverse_cons, List.reverse_nil, List.nil_append, List.cons_append,
      Members.lookup?]
    grind
  exact ⟨hsame, sorted_written "t" hsame⟩

/-- the first of the two -/
example : (Entry.insert "t").build? [.object (.ofSorted
    [("😀", Literal.int32 1), ("\uffff", .text "x"), ("a", .null), ("\uffff", .bool true)])] =
      some ⟨.insertValues, .insert, "INSERT INTO t (a, \uffff, 😀) VALUES (NULL, true, 1)"⟩ := rfl

end FluentSql
