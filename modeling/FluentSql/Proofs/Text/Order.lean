/-
The order of texts and the order of their bytes.

Texts are ordered by their characters: the first that differs decides. Written as UTF-8 they are in the same order, since
the bytes of a larger character are larger, whatever follows (`utf8EncodeChar_append_lt`).
- `encode_lt_iff`: two texts compare as their bytes do.
-/
import FluentSql.Proofs.Text.Utf8
import Mathlib.Data.String.Basic

namespace FluentSql.Text.Utf8

/-! ## Characters -/

/-- the first byte decides -/
theorem cons_lt_of_lt {a b : Nat} {xs ys : List UInt8} (hb : b < 256) (h : a < b) :
    UInt8.ofNat a :: xs < UInt8.ofNat b :: ys :=
  List.cons_lt_cons_iff.2 (.inl ((UInt8.ofNat_lt_iff_lt (Nat.lt_trans h hb) hb).2 h))

/-- or else, if it is the same, what follows -/
theorem cons_lt_of_le {a b : Nat} {xs ys : List UInt8} (hb : b < 256) (hle : a ≤ b) (h : a = b → xs < ys) :
    UInt8.ofNat a :: xs < UInt8.ofNat b :: ys := by
  rcases Nat.lt_or_eq_of_le hle with hlt | rfl
  · exact cons_lt_of_lt hb hlt
  · exact List.cons_lt_cons_iff.2 (.inr ⟨rfl, h rfl⟩)

/-- a smaller character has smaller bytes, and what follows them does not count -/
theorem utf8EncodeChar_append_lt {c d : Char} (h : c < d) (xs ys : List UInt8) :
    String.utf8EncodeChar c ++ xs < String.utf8EncodeChar d ++ ys := by
  have hd : d.val.toNat < 0x110000 := by
    have hvalid : d.val.toNat < 0xD800 ∨ 0xDFFF < d.val.toNat ∧ d.val.toNat < 0x110000 := d.valid
    omega
  have hlt : c.val.toNat < d.val.toNat := h
  unfold String.utf8EncodeChar
  dsimp only
  generalize c.val.toNat = v at hlt
  generalize d.val.toNat = w at hlt hd
  -- the bytes by the number of v, then of w; where w is no shorter than v, since it is larger
  split_ifs <;> simp only [List.cons_append, List.nil_append]
  any_goals omega
  -- one byte of v against one, two, three, four
  · exact cons_lt_of_lt (by omega) hlt
  · exact cons_lt_of_lt (by omega) (by omega)
  · exact cons_lt_of_lt (by omega) (by omega)
  · exact cons_lt_of_lt (by omega) (by omega)
  -- two bytes of v against two, three, four
  · exact cons_lt_of_le (by omega) (by omega) fun _ => cons_lt_of_lt (by omega) (by omega)
  · exact cons_lt_of_lt (by omega) (by omega)
  · exact cons_lt_of_lt (by omega) (by omega)
  -- three bytes of v against three, four
  · exact cons_lt_of_le (by omega) (by omega) fun _ => cons_lt_of_le (by omega) (by omega) fun _ =>
      cons_lt_of_lt (by omega) (by omega)
  · exact cons_lt_of_lt (by omega) (by omega)
  -- four bytes of both
  · exact cons_lt_of_le (by omega) (by omega) fun _ => cons_lt_of_le (by omega) (by omega) fun _ =>
      cons_lt_of_le (by omega) (by omega) fun _ => cons_lt_of_lt (by omega) (by omega)

/-! ## Texts -/

theorem flatMap_utf8EncodeChar_lt {cs ds : List Char} (h : cs < ds) :
    cs.flatMap String.utf8EncodeChar < ds.flatMap String.utf8EncodeChar := by
  induction h with
  | nil =>
    obtain ⟨b, bs, hb⟩ := List.exists_cons_of_ne_nil String.utf8EncodeChar_ne_nil
    rw [List.flatMap_nil, List.flatMap_cons, hb]
    exact List.nil_lt_cons _ _
  | rel hlt => exact utf8EncodeChar_append_lt hlt _ _
  | cons _ ih => exact List.append_left_lt ih

theorem encode_lt_of_lt {s t : String} (h : s < t) : encode s < encode t := by
  rw [encode_eq_flatMap, encode_eq_flatMap]
  exact flatMap_utf8EncodeChar_lt h

/-- **Order.** Two texts are in the order of their bytes. -/
theorem encode_lt_iff (s t : String) : encode s < encode t ↔ s < t := by
  refine ⟨fun h => ?_, encode_lt_of_lt⟩
  rcases lt_trichotomy s t with hlt | rfl | hgt
  · exact hlt
  · exact absurd h (List.lt_irrefl _)
  · exact absurd h (List.lt_asymm (encode_lt_of_lt hgt))

end FluentSql.Text.Utf8
