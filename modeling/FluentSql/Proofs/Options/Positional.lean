/-
Options by position and options by name.

An array gives the options that its items give under the names of the fields, in their order, provided that there is an
item for every field that is required and no item more than there are fields: from five to seven of them. The induction
that goes over items and fields side by side is `putItems_eq`.
-/
import FluentSql.Proofs.Options.Texts

namespace FluentSql.Options

open FluentSql.Json FluentSql.Json.Spelling

/-- the items under the names of the fields, in order -/
def named (xs : List Json) : Members Json :=
  ["host", "port", "user", "password", "database", "max_connections", "connect_timeout_secs"].zip xs

theorem named_nodup (xs : List Json) : (named xs).names.Nodup := by
  rw [Members.names, named, List.zip_eq_zip_take_min, List.map_fst_zip (by simp)]
  exact (List.take_sublist ..).nodup (by decide)

/-! ## Length -/

theorem mayEnd_eq_ok_iff (index : Nat) (fields : List Field) :
    mayEnd index fields = .ok () ↔ ∀ f ∈ fields, f.isRequired = false := by
  induction fields generalizing index with
  | nil => simp [mayEnd]
  | cons f fields ih =>
    rw [mayEnd, List.forall_mem_cons, ← ih (index + 1)]
    cases f.isRequired <;> simp

/-- the database is the last field that is required -/
theorem mayEnd_drop_eq_ok_iff (index n : Nat) : mayEnd index (Field.all.drop n) = .ok () ↔ 5 ≤ n := by
  rw [mayEnd_eq_ok_iff]
  constructor
  · intro h
    by_contra hn
    have hdatabase : Field.all.drop 4 ⊆ Field.all.drop n := List.drop_subset_drop_left _ (by omega)
    exact absurd (h .database (hdatabase (by decide))) (by decide)
  · intro hn f hf
    have hoptional : ∀ g ∈ Field.all.drop 5, g.isRequired = false := by decide
    exact hoptional f (List.drop_subset_drop_left _ hn hf)

/-! ## Arrays -/

theorem ofJson_array_eq_ok_iff (xs : List Json) (o : Options) :
    ofJson (.array xs) = .ok o ↔ (5 ≤ xs.length ∧ xs.length ≤ 7) ∧ ofJson (.object (named xs)) = .ok o := by
  have hnames : (Field.all.map Field.name).zip xs = named xs := rfl
  have hend := mayEnd_drop_eq_ok_iff (0 + xs.length) xs.length
  have hleft : (xs.drop Field.all.length).isEmpty = true ↔ xs.length ≤ 7 := by
    rw [List.isEmpty_iff, List.drop_eq_nil_iff]
    rfl
  constructor
  · intro h
    obtain ⟨⟨p, left⟩, hitems, hrest⟩ := bind_eq_ok h
    obtain ⟨o', hfinish, hlast⟩ := bind_eq_ok hrest
    rw [putItems_eq, hnames] at hitems
    obtain ⟨p', hput, hmayEnd⟩ := bind_eq_ok hitems
    obtain ⟨⟨⟩, hmay, heq⟩ := map_eq_ok hmayEnd
    obtain ⟨rfl, rfl⟩ := Prod.mk.inj heq
    split at hlast
    · next hempty =>
      obtain rfl := Except.ok.inj hlast
      refine ⟨⟨hend.1 hmay, hleft.1 hempty⟩, ?_⟩
      rw [ofJson, hput]
      exact hfinish
    · cases hlast
  · rintro ⟨⟨hfive, hseven⟩, h⟩
    obtain ⟨p, hput, hfinish⟩ := bind_eq_ok h
    rw [ofJson, putItems_eq, hnames, hput]
    simp only [bind, Except.bind, Except.map, hend.2 hfive, hfinish, hleft.2 hseven, if_true]
    rfl

/-- what comes of an array -/
structure ReadsArray (xs : List Json) : Prop where
  /-- it is read if it has the right length and the object is read that names its items, and then as that object is -/
  read : ∀ o, ofJson (.array xs) = .ok o ↔ (5 ≤ xs.length ∧ xs.length ≤ 7) ∧ ofJson (.object (named xs)) = .ok o
  /-- a shorter or a longer one is refused -/
  refused : xs.length < 5 ∨ 7 < xs.length → ∃ e, ofJson (.array xs) = .error e
  /-- a text that spells the array is read as one is that spells the object -/
  readText : ∀ text text', Spells text (.array xs) → Spells text' (.object (named xs)) → ∀ o,
    ofText text = .ok o ↔ (5 ≤ xs.length ∧ xs.length ≤ 7) ∧ ofText text' = .ok o
  refusedText : xs.length < 5 ∨ 7 < xs.length → ∀ text, Spells text (.array xs) → ∃ e, ofText text = .error e

theorem ofText_array_eq_ok_iff {text : String} {xs : List Json} (h : Spells text (.array xs)) (o : Options) :
    ofText text = .ok o ↔ ofJson (.array xs) = .ok o := by
  rcases Nat.lt_or_ge Field.all.length xs.length with hlong | hsize
  · obtain ⟨e, he⟩ := ofText_long hlong h
    rw [he, ofJson_array_eq_ok_iff]
    exact iff_of_false (fun h => nomatch h) fun h => absurd h.1.2 (Nat.not_le_of_lt hlong)
  · rw [ofText_array hsize h, mapError_eq_ok_iff]

/-- **Options from an array.** -/
theorem readsArray (xs : List Json) : ReadsArray xs where
  read := ofJson_array_eq_ok_iff xs
  refused := fun hsize => exists_eq_error fun o h => by
    have := ((ofJson_array_eq_ok_iff xs o).1 h).1
    omega
  readText := fun text text' h h' o => by
    rw [ofText_array_eq_ok_iff h, ofJson_array_eq_ok_iff, ofText_object (named_nodup xs) h', mapError_eq_ok_iff]
  refusedText := fun hsize text htext => exists_eq_error fun o h => by
    rw [ofText_array_eq_ok_iff htext] at h
    have := ((ofJson_array_eq_ok_iff xs o).1 h).1
    omega

/-- five items, and defaults for the last two fields -/
example : ofJson (.array [.text "db.local", .int ⟨3307, by decide, by decide⟩, .text "app", .text "pw", .text "shop"]) =
    .ok ⟨"db.local", 3307, "app", "pw", "shop", 1, 30⟩ := rfl

end FluentSql.Options
