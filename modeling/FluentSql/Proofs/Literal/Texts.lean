/-
JSON values as literals of their own, and as documents.

A JSON value may be taken as the literal of its kind or be kept whole. Both are written in the same way, except where the
kind has a text of its own: null, truth values behind SET, and strings, in which nothing is escaped, while a document
escapes quotation marks, backslashes and control characters.
- `Json.flatMap_escaped_eq_iff`: a string stays as it is exactly if none of its characters has to be escaped.
- `Literal.render_ofInteger`: an integer is written in its digits, on either side of the bound between the two words.
- `Literal.render_ofJson_eq_iff`: when the two texts are the same.
-/
import FluentSql.Literal
import FluentSql.Proofs.Json.Nested

namespace FluentSql

/-! ## Strings -/

namespace Json

/-- the character stands in a document as it is -/
def IsVerbatim (c : Char) : Prop := c ≠ '"' ∧ c ≠ '\\' ∧ 0x20 ≤ c.toNat

theorem escaped_of_isVerbatim {c : Char} (h : IsVerbatim c) : escaped c = [c] := by
  obtain ⟨hquote, hslash, hcontrol⟩ := h
  unfold escaped
  split
  · exact absurd rfl hquote
  · exact absurd rfl hslash
  -- the five control characters that have a letter
  iterate 5 exact absurd hcontrol (by decide)
  · exact if_neg (Nat.not_lt.2 hcontrol)

theorem one_lt_length_escaped {c : Char} (h : ¬ IsVerbatim c) : 1 < (escaped c).length := by
  unfold escaped
  split
  iterate 7 exact Nat.one_lt_two
  · next hquote hslash _ _ _ _ _ =>
    have hcontrol : c.toNat < 0x20 := by
      by_contra hlarge
      exact h ⟨hquote, hslash, Nat.not_lt.1 hlarge⟩
    rw [if_pos hcontrol]
    exact (by decide : 1 < 6)

theorem length_le_flatMap_escaped (cs : List Char) : cs.length ≤ (cs.flatMap escaped).length := by
  induction cs with
  | nil => exact Nat.le_refl 0
  | cons c cs ih =>
    have hc : 1 ≤ (escaped c).length := by
      by_cases hverbatim : IsVerbatim c
      · exact Nat.le_of_eq (congrArg List.length (escaped_of_isVerbatim hverbatim)).symm
      · exact Nat.le_of_lt (one_lt_length_escaped hverbatim)
    rw [List.flatMap_cons, List.length_append, List.length_cons]
    omega

/-- what has to be escaped makes a string longer, so that it cannot stay as it is -/
theorem flatMap_escaped_eq_iff (cs : List Char) : cs.flatMap escaped = cs ↔ ∀ c ∈ cs, IsVerbatim c := by
  induction cs with
  | nil => simp
  | cons c cs ih =>
    rw [List.flatMap_cons, List.forall_mem_cons]
    by_cases hc : IsVerbatim c
    · rw [escaped_of_isVerbatim hc, List.singleton_append, List.cons.injEq, ih]
      simp only [hc, true_and]
    · have hlonger : (escaped c ++ cs.flatMap escaped).length ≠ (c :: cs).length := by
        have hhead := one_lt_length_escaped hc
        have htail := length_le_flatMap_escaped cs
        rw [List.length_append, List.length_cons]
        omega
      simp only [hc, false_and, iff_false]
      exact fun heq => hlonger (congrArg List.length heq)

end Json

namespace Literal

/-! ## Integers -/

/-- the word of an integer holds its number; it has no sign if the number is too large for one -/
theorem ofInteger_cases (k : WordInt) :
    (∃ n : Int64, ofInteger k = .int64 n ∧ n.toInt = k.val) ∨
      ∃ n : UInt64, ofInteger k = .uint64 n ∧ Int.ofNat n.toNat = k.val ∧ 0x8000000000000000 ≤ k.val := by
  obtain ⟨n, hlower, hupper⟩ := k
  unfold ofInteger
  dsimp only
  split
  · exact .inl ⟨_, rfl, Int64.toInt_ofInt_of_le (by omega) (by omega)⟩
  · have hsize : n.toNat < UInt64.size := by
      have hsize : UInt64.size = 0x10000000000000000 := rfl
      omega
    have hn : (UInt64.ofNat n.toNat).toNat = n.toNat := UInt64.toNat_ofNat_of_lt hsize
    refine .inr ⟨_, rfl, ?_, by omega⟩
    rw [hn]
    exact Int.toNat_of_nonneg (by omega)

theorem ofJson_int (k : WordInt) : ofJson (.int k) = ofInteger k := rfl

theorem render_ofInteger (place : Place) (k : WordInt) : (ofInteger k).render place = k.val.repr := by
  obtain ⟨n, hn, hval⟩ | ⟨n, hn, hval, -⟩ := ofInteger_cases k
  · rw [hn, render, hval]
  · rw [hn, render, ← hval]
    rfl

/-! ## Texts -/

theorem render_json_int (place : Place) (n : WordInt) : (Literal.json (.int n)).render place = n.val.repr := by
  rw [render, Json.compact, Json.chars, String.ofList_toList]

theorem toList_render_text (place : Place) (s : String) :
    ((Literal.text s).render place).toList = '"' :: (s.toList ++ ['"']) := by
  simp [render]

theorem toList_render_json_text (place : Place) (s : String) :
    ((Literal.json (.text s)).render place).toList = '"' :: (s.toList.flatMap Json.escaped ++ ['"']) := by
  rw [render, Json.compact, String.toList_ofList, Json.chars, Json.stringChars]

/-- a string, written as a literal and as a document -/
theorem render_text_eq_iff (place : Place) (s : String) :
    (Literal.text s).render place = (Literal.json (.text s)).render place ↔ ∀ c ∈ s.toList, Json.IsVerbatim c := by
  rw [← String.toList_inj, toList_render_text, toList_render_json_text, List.cons_eq_cons, List.append_cancel_right_eq,
    @eq_comm _ s.toList, Json.flatMap_escaped_eq_iff]
  exact and_iff_right rfl

/-- **Two texts.** A JSON value that is no float is written in the same way as a literal of its kind and as a document,
except null, a string with a character that a document escapes, and behind SET a truth value. -/
theorem render_ofJson_eq_iff (place : Place) {j : Json} (hj : j.isFloat = false) :
    (ofJson j).render place = (Literal.json j).render place ↔
      j ≠ .null ∧ (∀ s, j = .text s → ∀ c ∈ s.toList, c ≠ '"' ∧ c ≠ '\\' ∧ 0x20 ≤ c.toNat) ∧
        (place = .set → ∀ b, j ≠ .bool b) := by
  cases j with
  | null => simp [ofJson, render, Json.compact, Json.chars]
  | bool b => cases place <;> cases b <;> simp [ofJson, render, boolText, Json.compact, Json.chars]
  | int n =>
    rw [ofJson_int, render_ofInteger, render_json_int]
    simp
  | float x => cases hj
  | text s =>
    rw [ofJson, render_text_eq_iff]
    simp [Json.IsVerbatim]
  -- arrays and objects are documents either way
  | array items => simp [ofJson]
  | object members => simp [ofJson]

/-- a string that a document escapes, and one that only looks as if it had to -/
theorem render_ofJson_eq_iff_of_strings :
    let escaped : Json := .text "say \"hi\""
    let plain : Json := .text "/\x7f'é"
    (escaped.isFloat = false ∧ plain.isFloat = false) ∧
      (ofJson escaped).render .values ≠ (Literal.json escaped).render .values ∧
      (ofJson plain).render .set = (Literal.json plain).render .set := by
  intro escaped plain
  refine ⟨⟨rfl, rfl⟩, fun h => ?_, (render_ofJson_eq_iff .set rfl).2 ⟨by simp [plain], ?_, by simp [plain]⟩⟩
  · have hquote := ((render_ofJson_eq_iff .values rfl).1 h).2.1 _ rfl '"' (by decide)
    exact hquote.1 rfl
  · rintro s hs
    obtain rfl : "/\x7f'é" = s := Json.text.inj hs
    simp

end Literal

end FluentSql
