/-
Text that is written as UTF-8 is read back.

The bytes of one character are read in as many steps: the first byte announces how many follow and where the second lies
(`lead?_two`, `lead?_three`, `lead?_four`), each further byte adds six bits, and behind the last one reading goes on as
from the start (`decodeFrom_char`).
- `decode_encode`: a whole text.
- `encode_of_decode`: and bytes that are read as a text are those that it is written as.
- `length_le_of_decode`: whatever the bytes, a text that is read has no more characters than they are.
-/
import FluentSql.Proofs.Traversal
import FluentSql.Text.Utf8
import Mathlib.Tactic

namespace FluentSql.Text.Utf8

/-! ## Bytes -/

/-- a byte that stands for itself -/
theorem decodeFrom_ascii (index : Nat) {v : Nat} (hv : v < 0x80) (bytes : List UInt8) :
    decodeFrom index none (UInt8.ofNat v :: bytes) =
      (decodeFrom (index + 1) none bytes).map (Char.ofNat v :: ·) := by
  have hb : (UInt8.ofNat v).toNat = v := by simp; omega
  rw [decodeFrom, if_pos (by rwa [hb]), hb]

/-- the first byte of a longer sequence -/
theorem decodeFrom_lead (index : Nat) {b : Nat} {p : Pending} (hb : b < 256) (hlead : lead? index b = some p)
    (bytes : List UInt8) :
    decodeFrom index none (UInt8.ofNat b :: bytes) = decodeFrom (index + 1) (some p) bytes := by
  have hb' : (UInt8.ofNat b).toNat = b := by simp; omega
  have hlarge : ¬ b < 0x80 := by
    intro hlt
    unfold lead? at hlead
    split_ifs at hlead <;> omega
  rw [decodeFrom, if_neg (by rwa [hb']), hb', hlead]

/-- a further byte, behind which more are to come -/
theorem decodeFrom_next (index start seen code low high more : Nat) {b : Nat} (hb : b < 256) (hlow : low ≤ b)
    (hhigh : b ≤ high) (bytes : List UInt8) :
    decodeFrom index (some ⟨start, seen, code, low, high, more + 1⟩) (UInt8.ofNat b :: bytes) =
      decodeFrom (index + 1) (some ⟨start, seen + 1, code * 64 + (b - 0x80), 0x80, 0xBF, more⟩) bytes := by
  have hb' : (UInt8.ofNat b).toNat = b := by simp; omega
  rw [decodeFrom, hb', if_pos ⟨hlow, hhigh⟩]

/-- the last byte of a sequence -/
theorem decodeFrom_last (index start seen code low high : Nat) {b : Nat} (hb : b < 256) (hlow : low ≤ b)
    (hhigh : b ≤ high) (bytes : List UInt8) :
    decodeFrom index (some ⟨start, seen, code, low, high, 0⟩) (UInt8.ofNat b :: bytes) =
      (decodeFrom (index + 1) none bytes).map (Char.ofNat (code * 64 + (b - 0x80)) :: ·) := by
  have hb' : (UInt8.ofNat b).toNat = b := by simp; omega
  rw [decodeFrom, hb', if_pos ⟨hlow, hhigh⟩]

/-! ## First bytes -/

/-- of two bytes the first announces any second one -/
theorem lead?_two (index : Nat) {v : Nat} (hlow : 0x80 ≤ v) (hhigh : v < 0x800) :
    lead? index (v / 64 % 32 + 192) = some ⟨index, 1, v / 64, 0x80, 0xBF, 0⟩ := by
  have hcode : v / 64 % 32 + 192 - 0xC0 = v / 64 := by omega
  rw [lead?, if_pos (by omega), hcode]

/-- of three bytes the first announces a range in which the second lies, as the character is no surrogate -/
theorem lead?_three (index : Nat) {v : Nat} (hlow : 0x800 ≤ v) (hhigh : v < 0x10000) (hvalid : v < 0xD800 ∨ 0xDFFF < v) :
    ∃ low high, lead? index (v / 4096 % 16 + 224) = some ⟨index, 1, v / 4096, low, high, 1⟩ ∧
      low ≤ v / 64 % 64 + 128 ∧ v / 64 % 64 + 128 ≤ high := by
  unfold lead?
  split_ifs
  · omega
  · have hcode : v / 4096 = 0 := by omega
    exact ⟨0xA0, 0xBF, by rw [hcode], by omega, by omega⟩
  · have hcode : v / 4096 = 0xD := by omega
    exact ⟨0x80, 0x9F, by rw [hcode], by omega, by omega⟩
  · have hcode : v / 4096 % 16 + 224 - 0xE0 = v / 4096 := by omega
    exact ⟨0x80, 0xBF, by rw [hcode], by omega, by omega⟩
  all_goals omega

/-- of four bytes the first announces a range in which the second lies, as the character is not past the last one -/
theorem lead?_four (index : Nat) {v : Nat} (hlow : 0x10000 ≤ v) (hhigh : v < 0x110000) :
    ∃ low high, lead? index (v / 262144 % 8 + 240) = some ⟨index, 1, v / 262144, low, high, 2⟩ ∧
      low ≤ v / 4096 % 64 + 128 ∧ v / 4096 % 64 + 128 ≤ high := by
  unfold lead?
  split_ifs
  iterate 4 omega
  · have hcode : v / 262144 = 0 := by omega
    exact ⟨0x90, 0xBF, by rw [hcode], by omega, by omega⟩
  · have hcode : v / 262144 % 8 + 240 - 0xF0 = v / 262144 := by omega
    exact ⟨0x80, 0xBF, by rw [hcode], by omega, by omega⟩
  · have hcode : v / 262144 = 4 := by omega
    exact ⟨0x80, 0x8F, by rw [hcode], by omega, by omega⟩
  · omega

/-! ## Characters -/

/-- the bytes of a character are read to it -/
theorem decodeFrom_char (index : Nat) (c : Char) (bytes : List UInt8) :
    ∃ index', decodeFrom index none (String.utf8EncodeChar c ++ bytes) =
      (decodeFrom index' none bytes).map (c :: ·) := by
  have hvalid : c.toNat < 0xD800 ∨ 0xDFFF < c.toNat ∧ c.toNat < 0x110000 := c.valid
  have hc : Char.ofNat c.toNat = c := Char.ofNat_toNat c
  generalize hv : c.toNat = v at hvalid hc
  have hval : c.val.toNat = v := hv
  unfold String.utf8EncodeChar
  simp only [hval]
  -- one byte, two, three, four
  split_ifs
  · refine ⟨index + 1, ?_⟩
    rw [List.singleton_append, decodeFrom_ascii index (by omega), hc]
  · have hcode : v / 64 * 64 + (v % 64 + 128 - 0x80) = v := by omega
    refine ⟨index + 2, ?_⟩
    rw [List.cons_append, decodeFrom_lead index (by omega) (lead?_two index (by omega) (by omega)),
      List.singleton_append, decodeFrom_last _ _ _ _ _ _ (by omega) (by omega) (by omega), hcode, hc]
  · obtain ⟨low, high, hlead, hlow, hhigh⟩ := lead?_three (v := v) index (by omega) (by omega) (by omega)
    have hcode : (v / 4096 * 64 + (v / 64 % 64 + 128 - 0x80)) * 64 + (v % 64 + 128 - 0x80) = v := by omega
    refine ⟨index + 3, ?_⟩
    rw [List.cons_append, decodeFrom_lead index (by omega) hlead, List.cons_append,
      decodeFrom_next _ _ _ _ _ _ _ (by omega) hlow hhigh, List.singleton_append,
      decodeFrom_last _ _ _ _ _ _ (by omega) (by omega) (by omega), hcode, hc]
  · obtain ⟨low, high, hlead, hlow, hhigh⟩ := lead?_four (v := v) index (by omega) (by omega)
    have hcode : ((v / 262144 * 64 + (v / 4096 % 64 + 128 - 0x80)) * 64 + (v / 64 % 64 + 128 - 0x80)) * 64 +
        (v % 64 + 128 - 0x80) = v := by omega
    refine ⟨index + 4, ?_⟩
    rw [List.cons_append, decodeFrom_lead index (by omega) hlead, List.cons_append,
      decodeFrom_next _ _ _ _ _ _ _ (by omega) hlow hhigh, List.cons_append,
      decodeFrom_next _ _ _ _ _ _ _ (by omega) (by omega) (by omega), List.singleton_append,
      decodeFrom_last _ _ _ _ _ _ (by omega) (by omega) (by omega), hcode, hc]

/-! ## Texts -/

theorem decodeFrom_chars (index : Nat) (cs : List Char) :
    decodeFrom index none (cs.flatMap String.utf8EncodeChar) = .ok cs := by
  induction cs generalizing index with
  | nil => rfl
  | cons c cs ih =>
    obtain ⟨index', h⟩ := decodeFrom_char index c (cs.flatMap String.utf8EncodeChar)
    rw [List.flatMap_cons, h, ih]
    rfl

/-- the bytes of a text -/
def encode (s : String) : List UInt8 := s.toUTF8.data.toList

theorem encode_eq_flatMap (s : String) : encode s = s.toList.flatMap String.utf8EncodeChar := by
  have hbytes : s.toUTF8 = (s.toList.flatMap String.utf8EncodeChar).toByteArray := by
    rw [← List.utf8Encode, ← String.toByteArray_ofList, String.ofList_toList]
    rfl
  rw [encode, hbytes, List.data_toByteArray]

/-- **Text.** What is written as UTF-8 is read back. -/
theorem decode_encode (s : String) : decode (encode s) = .ok s := by
  rw [decode, encode_eq_flatMap, decodeFrom_chars]
  exact congrArg Except.ok String.ofList_toList

/-! ## Bytes that are read -/

/-- what the first byte of a longer sequence announces, and which bytes announce it -/
theorem lead?_cases {start b : Nat} {p : Pending} (h : lead? start b = some p) :
    (0xC2 ≤ b ∧ b ≤ 0xDF ∧ p = ⟨start, 1, b - 0xC0, 0x80, 0xBF, 0⟩) ∨
      (∃ low high, 0xE0 ≤ b ∧ b ≤ 0xEF ∧ p = ⟨start, 1, b - 0xE0, low, high, 1⟩ ∧ 0x80 ≤ low ∧ high ≤ 0xBF ∧
        (b = 0xE0 → 0xA0 ≤ low) ∧ (b = 0xED → high ≤ 0x9F)) ∨
      (∃ low high, 0xF0 ≤ b ∧ b ≤ 0xF4 ∧ p = ⟨start, 1, b - 0xF0, low, high, 2⟩ ∧ 0x80 ≤ low ∧ high ≤ 0xBF ∧
        (b = 0xF0 → 0x90 ≤ low) ∧ (b = 0xF4 → high ≤ 0x8F)) := by
  unfold lead? at h
  split_ifs at h <;> obtain rfl := Option.some.inj h
  · exact .inl ⟨by omega, by omega, rfl⟩
  · exact .inr (.inl ⟨0xA0, 0xBF, by omega, by omega, by subst_vars; rfl, by omega, by omega, by omega, by omega⟩)
  · exact .inr (.inl ⟨0x80, 0x9F, by omega, by omega, by subst_vars; rfl, by omega, by omega, by omega, by omega⟩)
  · exact .inr (.inl ⟨0x80, 0xBF, by omega, by omega, rfl, by omega, by omega, by omega, by omega⟩)
  · exact .inr (.inr ⟨0x90, 0xBF, by omega, by omega, by subst_vars; rfl, by omega, by omega, by omega, by omega⟩)
  · exact .inr (.inr ⟨0x80, 0xBF, by omega, by omega, rfl, by omega, by omega, by omega, by omega⟩)
  · exact .inr (.inr ⟨0x80, 0x8F, by omega, by omega, by subst_vars; rfl, by omega, by omega, by omega, by omega⟩)

/-- a byte past ASCII is no character alone -/
theorem exists_decodeFrom_eq_error (index : Nat) {a b : UInt8} (ha : 0x80 ≤ a.toNat) (hb : b.toNat < 0x80)
    (bytes : List UInt8) : ∃ fault, decodeFrom index none (a :: b :: bytes) = .error fault := by
  rw [decodeFrom, if_neg (Nat.not_lt.2 ha)]
  cases hlead : lead? index a.toNat with
  | none => exact ⟨_, rfl⟩
  | some p =>
    have hlow : 0x80 ≤ p.low := by
      rcases lead?_cases hlead with ⟨-, -, rfl⟩ | ⟨low, high, -, -, rfl, hlow, -⟩ | ⟨low, high, -, -, rfl, hlow, -⟩
      · exact Nat.le_refl _
      · exact hlow
      · exact hlow
    have hrange : ¬ (p.low ≤ b.toNat ∧ b.toNat ≤ p.high) := fun h =>
      absurd (Nat.le_trans hlow h.1) (Nat.not_le.2 hb)
    refine ⟨⟨p.start, some p.seen⟩, ?_⟩
    dsimp only
    rw [decodeFrom, if_neg hrange]

/-- the next byte of a sequence that is read lies in the range -/
theorem exists_of_pending {index start seen code low high more : Nat} {bytes : List UInt8} {cs : List Char}
    (h : decodeFrom index (some ⟨start, seen, code, low, high, more⟩) bytes = .ok cs) :
    ∃ b rest, bytes = b :: rest ∧ low ≤ b.toNat ∧ b.toNat ≤ high ∧
      match more with
      | 0 => ∃ ds, cs = Char.ofNat (code * 64 + (b.toNat - 0x80)) :: ds ∧ decodeFrom (index + 1) none rest = .ok ds
      | more + 1 => decodeFrom (index + 1) (some ⟨start, seen + 1, code * 64 + (b.toNat - 0x80), 0x80, 0xBF, more⟩) rest =
          .ok cs := by
  cases bytes with
  | nil => cases h
  | cons b rest =>
    rw [decodeFrom] at h
    split at h
    · next hrange =>
      refine ⟨b, rest, rfl, hrange.1, hrange.2, ?_⟩
      cases more with
      | zero =>
        obtain ⟨ds, hds, rfl⟩ := map_eq_ok h
        exact ⟨ds, rfl, hds⟩
      | succ more => exact h
    · cases h

/-- the bytes of the character with a number, by its bits -/
theorem utf8EncodeChar_ofNat {v : Nat} (h : v.isValidChar) :
    String.utf8EncodeChar (Char.ofNat v) =
      if v ≤ 0x7F then [UInt8.ofNat v]
      else if v ≤ 0x7FF then [UInt8.ofNat (v / 64 % 32 + 192), UInt8.ofNat (v % 64 + 128)]
      else if v ≤ 0xFFFF then
        [UInt8.ofNat (v / 4096 % 16 + 224), UInt8.ofNat (v / 64 % 64 + 128), UInt8.ofNat (v % 64 + 128)]
      else
        [UInt8.ofNat (v / 262144 % 8 + 240), UInt8.ofNat (v / 4096 % 64 + 128), UInt8.ofNat (v / 64 % 64 + 128),
          UInt8.ofNat (v % 64 + 128)] := by
  have hval : (Char.ofNat v).val.toNat = v := by
    rw [Char.ofNat, dif_pos h]
    rfl
  unfold String.utf8EncodeChar
  simp only [hval]

theorem ofNat_eq {b : UInt8} {n : Nat} (h : n = b.toNat) : UInt8.ofNat n = b := by
  rw [h, UInt8.ofNat_toNat]

/-- the first character that is read, and the bytes that it is written as -/
theorem exists_of_decodeFrom_cons {index : Nat} {b : UInt8} {bytes : List UInt8} {cs : List Char}
    (h : decodeFrom index none (b :: bytes) = .ok cs) :
    ∃ c ds rest index', cs = c :: ds ∧ b :: bytes = String.utf8EncodeChar c ++ rest ∧
      decodeFrom index' none rest = .ok ds := by
  rw [decodeFrom] at h
  split at h
  · next hsmall =>
    obtain ⟨ds, hds, rfl⟩ := map_eq_ok h
    refine ⟨_, ds, bytes, index + 1, rfl, ?_, hds⟩
    rw [utf8EncodeChar_ofNat (.inl (by omega)), if_pos (by omega), ofNat_eq rfl]
    rfl
  · split at h
    · cases h
    · next p hlead =>
      obtain ⟨hlow, hhigh, rfl⟩ | ⟨low, high, hlow, hhigh, rfl, hmin, hmax, hfirst, hlast⟩ |
        ⟨low, high, hlow, hhigh, rfl, hmin, hmax, hfirst, hlast⟩ := lead?_cases hlead
      · obtain ⟨b₁, rest, rfl, hlow₁, hhigh₁, ds, rfl, hds⟩ := exists_of_pending h
        refine ⟨_, ds, rest, _, rfl, ?_, hds⟩
        rw [utf8EncodeChar_ofNat (.inl (by omega)), if_neg (by omega), if_pos (by omega), ofNat_eq (b := b) (by omega),
          ofNat_eq (b := b₁) (by omega)]
        rfl
      · obtain ⟨b₁, rest₁, rfl, hlow₁, hhigh₁, h₁⟩ := exists_of_pending h
        obtain ⟨b₂, rest, rfl, hlow₂, hhigh₂, ds, rfl, hds⟩ := exists_of_pending h₁
        refine ⟨_, ds, rest, _, rfl, ?_, hds⟩
        rw [utf8EncodeChar_ofNat (by unfold Nat.isValidChar; omega), if_neg (by omega), if_neg (by omega), if_pos (by omega),
          ofNat_eq (b := b) (by omega), ofNat_eq (b := b₁) (by omega), ofNat_eq (b := b₂) (by omega)]
        rfl
      · obtain ⟨b₁, rest₁, rfl, hlow₁, hhigh₁, h₁⟩ := exists_of_pending h
        obtain ⟨b₂, rest₂, rfl, hlow₂, hhigh₂, h₂⟩ := exists_of_pending h₁
        obtain ⟨b₃, rest, rfl, hlow₃, hhigh₃, ds, rfl, hds⟩ := exists_of_pending h₂
        refine ⟨_, ds, rest, _, rfl, ?_, hds⟩
        rw [utf8EncodeChar_ofNat (by unfold Nat.isValidChar; omega), if_neg (by omega), if_neg (by omega), if_neg (by omega),
          ofNat_eq (b := b) (by omega), ofNat_eq (b := b₁) (by omega), ofNat_eq (b := b₂) (by omega),
          ofNat_eq (b := b₃) (by omega)]
        rfl

theorem flatMap_of_decodeFrom {index : Nat} {bytes : List UInt8} {cs : List Char}
    (h : decodeFrom index none bytes = .ok cs) : cs.flatMap String.utf8EncodeChar = bytes := by
  induction cs generalizing index bytes with
  | nil =>
    cases bytes with
    | nil => rfl
    | cons b bytes =>
      obtain ⟨c, ds, rest, index', hcs, -⟩ := exists_of_decodeFrom_cons h
      cases hcs
  | cons c cs ih =>
    cases bytes with
    | nil => cases h
    | cons b bytes =>
      obtain ⟨c', ds, rest, index', hcs, hbytes, hds⟩ := exists_of_decodeFrom_cons h
      obtain ⟨rfl, rfl⟩ := List.cons.inj hcs
      rw [List.flatMap_cons, ih hds, hbytes]

/-- **Bytes.** What is read as a text is what the text is written as. -/
theorem encode_of_decode {bytes : List UInt8} {s : String} (h : decode bytes = .ok s) : encode s = bytes := by
  obtain ⟨cs, hcs, rfl⟩ := map_eq_ok h
  rw [encode_eq_flatMap, String.toList_ofList, flatMap_of_decodeFrom hcs]

/-! ## Length -/

theorem length_le_of_decodeFrom {index : Nat} {pending : Option Pending} {bytes : List UInt8} {cs : List Char}
    (h : decodeFrom index pending bytes = .ok cs) : cs.length ≤ bytes.length := by
  induction bytes generalizing index pending cs with
  | nil =>
    cases pending with
    | none =>
      obtain rfl := Except.ok.inj h
      exact Nat.zero_le _
    | some p => cases h
  | cons b bytes ih =>
    -- the last byte of a character adds it, the ones before add nothing
    have hlast {c : Char} (h : (decodeFrom (index + 1) none bytes).map (c :: ·) = .ok cs) : cs.length ≤ bytes.length + 1 := by
      obtain ⟨ds, hds, rfl⟩ := map_eq_ok h
      exact Nat.succ_le_succ (ih hds)
    have hother {p : Pending} (h : decodeFrom (index + 1) (some p) bytes = .ok cs) : cs.length ≤ bytes.length + 1 :=
      (ih h).trans (Nat.le_succ _)
    cases pending with
    | none =>
      rw [decodeFrom] at h
      split at h
      · exact hlast h
      · split at h
        · cases h
        · exact hother h
    | some p =>
      rw [decodeFrom] at h
      split at h
      · dsimp only at h
        split at h
        · exact hlast h
        · exact hother h
      · cases h

theorem length_le_of_decode {bytes : List UInt8} {s : String} (h : decode bytes = .ok s) : s.length ≤ bytes.length := by
  obtain ⟨cs, hcs, rfl⟩ := map_eq_ok h
  rw [String.length_ofList]
  exact length_le_of_decodeFrom hcs

end FluentSql.Text.Utf8
