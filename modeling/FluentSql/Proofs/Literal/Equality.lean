/-
JSON values that are the same literal.

Scalars become literals of five kinds, an integer one of two words, and arrays and objects stay what they are. Nothing is
lost on the way:
- `Literal.same_ofInteger`: integers are the same literal exactly if they are the same number, on either side of the bound
  between the two words.
- `Literal.same_ofJson`: two JSON values are the same literal exactly if they are the same value.
- `Literal.same_ofJson_iff_equal`: for values whose floats are finite and whose names differ, exactly if they are equal up
  to the order of their members.
-/
import FluentSql.Proofs.Json.Equality
import FluentSql.Proofs.Literal.Texts

namespace FluentSql.Literal

theorem same_ofInteger (n k : WordInt) : (ofInteger n).same (ofInteger k) = (n.val == k.val) := by
  obtain ⟨x, hx, hn⟩ | ⟨x, hx, hn, hlarge⟩ := ofInteger_cases n
  · have hsmall : n.val < 0x8000000000000000 := hn ▸ x.toInt_lt
    obtain ⟨y, hy, hk⟩ | ⟨y, hy, hk, hlarge⟩ := ofInteger_cases k
    · rw [hx, hy, same, ← hn, ← hk, Bool.eq_iff_iff, beq_iff_eq, beq_iff_eq, Int64.toInt_inj]
    · have hne : n.val ≠ k.val := by omega
      rw [hx, hy, beq_eq_false_iff_ne.2 hne]
      rfl
  · obtain ⟨y, hy, hk⟩ | ⟨y, hy, hk, -⟩ := ofInteger_cases k
    · have hsmall : k.val < 0x8000000000000000 := hk ▸ y.toInt_lt
      have hne : n.val ≠ k.val := by omega
      rw [hx, hy, beq_eq_false_iff_ne.2 hne]
      rfl
    · rw [hx, hy, same, ← hn, ← hk, Bool.eq_iff_iff, beq_iff_eq, beq_iff_eq, ← UInt64.toNat_inj]
      exact Int.ofNat_inj.symm

/-- values of two kinds are literals of two kinds -/
theorem same_ofJson (a b : Json) : (ofJson a).same (ofJson b) = a.same b := by
  cases a with
  | int n =>
    cases b with
    | int k => exact same_ofInteger n k
    -- whichever word the integer is, no literal of another kind is the same
    | _ =>
      rw [ofJson_int]
      obtain ⟨x, hx, -⟩ | ⟨x, hx, -⟩ := ofInteger_cases n <;> rw [hx] <;> rfl
  | _ =>
    cases b with
    | int k =>
      rw [ofJson_int]
      obtain ⟨y, hy, -⟩ | ⟨y, hy, -⟩ := ofInteger_cases k <;> rw [hy] <;> rfl
    | _ => rfl

/-- **Nothing is lost.** JSON values whose floats are finite and in whose objects no name comes twice are the same literal
exactly if they are the same value, that is, if they are equal up to the order of members. An integer, however large, is
the same literal as no other value. -/
theorem same_ofJson_iff_equal {a b : Json} (ha : a.all Json.isProper = true) (hb : b.all Json.isProper = true) :
    ((ofJson a).same (ofJson b) = true ↔ a.same b = true) ∧ ((ofJson a).same (ofJson b) = true ↔ a.Equal b) ∧
      ∀ n, a = .int n → ((ofJson a).same (ofJson b) = true ↔ b = .int n) := by
  rw [same_ofJson]
  refine ⟨Iff.rfl, Json.same_iff_equal ha hb, ?_⟩
  rintro n rfl
  rw [Json.same_iff_equal ha hb]
  exact ⟨fun h => by cases h; rfl, fun h => h ▸ .int n⟩

/-- members in two orders, the two zeros, and an integer past the signed word -/
theorem same_ofJson_iff_equal_of_zeros :
    let large : Json := .int ⟨0x8000000000000000, by decide, by decide⟩
    let a : Json := .object [("x", .array [large, .float ⟨0x8000000000000000⟩]), ("y", .null)]
    let b : Json := .object [("y", .null), ("x", .array [large, .float ⟨0⟩])]
    (a.all Json.isProper = true ∧ b.all Json.isProper = true) ∧ (ofJson a).same (ofJson b) = true ∧ a.Equal b := by
  intro large a b
  have ha : a.all Json.isProper = true := by decide
  have hb : b.all Json.isProper = true := by decide
  have hsame : (ofJson a).same (ofJson b) = true := by decide
  exact ⟨⟨ha, hb⟩, hsame, (same_ofJson_iff_equal ha hb).2.1.1 hsame⟩

end FluentSql.Literal
