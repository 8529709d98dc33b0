/-
Lists that their text determines.

Nothing in a literal is escaped and no length is written. Still a literal that is no float, no JSON, no raw SQL and no
string with a quotation mark in it (`Literal.IsClosed`) is known by its text, whatever follows: the first character tells
its form (`Literal.Form`), and a string ends at its second quotation mark, all else at the next comma
(`Literal.known_render`). An assignment has its name in front, which ends at the first equals sign
(`Assignments.known_pairText`).
- `values_unambiguous`: the text of a list of literals determines the literals.
- `set_unambiguous`: the text behind SET determines names and literals.
-/
import FluentSql.Proofs.Json.Scalars
import FluentSql.Proofs.Literal.Texts
import FluentSql.Proofs.Text.Pieces
import FluentSql.Statement.Clause
import Mathlib.Data.List.Forall2

namespace FluentSql

/-! ## Digits -/

namespace Text.Hex

/-- bytes that are written in digits are read back -/
theorem decode?_encode (bs : List UInt8) : decode? (encode bs) = some bs := by
  induction bs with
  | nil => rfl
  | cons b bs ih =>
    have hb : b.toNat < 256 := b.toNat_lt
    have hbyte : UInt8.ofNat (b.toNat / 16 * 16 + b.toNat % 16) = b := by
      rw [Nat.div_add_mod']
      exact UInt8.ofNat_toNat
    have hencode : encode (b :: bs) = Nat.digitChar (b.toNat / 16) :: Nat.digitChar (b.toNat % 16) :: encode bs := rfl
    rw [hencode, decode?, Json.Parser.value?_digitChar _ (by omega), Json.Parser.value?_digitChar _ (by omega), ih]
    exact congrArg (fun c => some (c :: bs)) hbyte

theorem encode_injective {bs bs' : List UInt8} (h : encode bs = encode bs') : bs = bs' := by
  have hdecode := congrArg decode? h
  rwa [decode?_encode, decode?_encode, Option.some.injEq] at hdecode

theorem comma_not_mem_encode (bs : List UInt8) : ',' ∉ encode bs := by
  have hdigit : ∀ d < 16, ',' ≠ Nat.digitChar d := by decide
  intro h
  obtain ⟨b, -, hb⟩ := List.mem_flatMap.1 h
  have hbound : b.toNat < 256 := b.toNat_lt
  rw [pair, List.mem_cons, List.mem_singleton] at hb
  rcases hb with hhigh | hlow
  · exact hdigit _ (by omega) hhigh
  · exact hdigit _ (by omega) hlow

end Text.Hex

/-- an integer is written in digits, with a sign in front of a negative one -/
theorem toList_repr (n : Int) : n.repr.toList = (if n < 0 then ['-'] else []) ++ Nat.toDigits 10 n.natAbs := by
  have hdigits (m : Nat) : m.repr.toList = Nat.toDigits 10 m := String.toList_ofList
  cases n with
  | ofNat n => exact hdigits n
  | negSucc n =>
    rw [if_pos (Int.negSucc_lt_zero n), Int.natAbs_negSucc, ← hdigits]
    exact String.toList_append

theorem isDigit_or_of_mem_repr {n : Int} {c : Char} (h : c ∈ n.repr.toList) : c.isDigit = true ∨ c = '-' := by
  rw [toList_repr, List.mem_append] at h
  rcases h with hsign | hdigit
  · split_ifs at hsign
    · exact .inr (List.mem_singleton.1 hsign)
    · cases hsign
  · exact .inl (Json.Parser.isDigit_of_mem hdigit)

/-- different integers are written differently: a sign is no digit, and digits are read back -/
theorem repr_injective {m n : Int} (h : m.repr = n.repr) : m = n := by
  have hread (k : Nat) : Nat.ofDigitChars 10 (Nat.toDigits 10 k) 0 = k := Nat.ofDigitChars_ten_toDigits
  have hdigits (hsame : Nat.toDigits 10 m.natAbs = Nat.toDigits 10 n.natAbs) : m.natAbs = n.natAbs := by
    rw [← hread m.natAbs, hsame, hread]
  have hsign (cs : List Char) (k : Nat) : '-' :: cs ≠ Nat.toDigits 10 k := fun hcs =>
    absurd (Json.Parser.isDigit_of_mem (hcs ▸ List.mem_cons_self)) (by decide)
  have hchars := congrArg String.toList h
  rw [toList_repr, toList_repr] at hchars
  split_ifs at hchars with hm hn hn
  · have habs := hdigits (List.cons.inj hchars).2
    omega
  · exact absurd hchars (hsign _ _)
  · exact absurd hchars.symm (hsign _ _)
  · have habs := hdigits hchars
    omega

/-! ## Literals -/

namespace Literal

/-- the number of an integer, whatever its width -/
def integer? : Literal → Option Int
  | .int32 n => some n.toInt
  | .int64 n => some n.toInt
  | .uint64 n => some n.toNat
  | _ => none

/-- the same literal, except that an integer may be of another width -/
def Agrees (l l' : Literal) : Prop := l = l' ∨ ∃ n, l.integer? = some n ∧ l'.integer? = some n

/-- the forms of which the first character tells -/
inductive Form where
  | null
  | bool
  | integer
  | bytes
  | text
deriving DecidableEq, Repr

/-- the literals of a form; a string is one with no quotation mark in it -/
def HasForm (l : Literal) : Form → Prop
  | .null => l = .null
  | .bool => ∃ b, l = .bool b
  | .integer => ∃ n, l.integer? = some n
  | .bytes => ∃ bs, l = .bytes bs
  | .text => ∃ s, l = .text s ∧ '"' ∉ s.toList

/-- literals whose text shows where it ends -/
def IsClosed (l : Literal) : Prop := ∃ f, l.HasForm f

/-! ### Their texts -/

theorem render_of_integer? {l : Literal} {n : Int} (h : l.integer? = some n) (place : Place) :
    l.render place = n.repr := by
  cases l <;> cases h <;> rfl

theorem toList_render_bytes (place : Place) (bs : List UInt8) :
    ((Literal.bytes bs).render place).toList = 'X' :: '\'' :: (Text.Hex.encode bs ++ ['\'']) := by
  simp [render]

theorem Agrees.render_eq {l l' : Literal} (h : l.Agrees l') (place : Place) : l.render place = l'.render place := by
  obtain rfl | ⟨n, hl, hl'⟩ := h
  · rfl
  · rw [render_of_integer? hl, render_of_integer? hl']

def Form.ofChar (c : Char) : Form :=
  if c.isDigit = true ∨ c = '-' then .integer
  else if c = 'N' then .null
  else if c = 'X' then .bytes
  else if c = '"' then .text
  else .bool

theorem HasForm.begin {l : Literal} {f : Form} (h : l.HasForm f) (place : Place) :
    ∃ c cs, (l.render place).toList = c :: cs ∧ Form.ofChar c = f := by
  cases f with
  | null =>
    obtain rfl := h
    exact ⟨'N', ['U', 'L', 'L'], by simp [render], rfl⟩
  | bool =>
    obtain ⟨b, rfl⟩ := h
    cases place <;> cases b <;> simp [render, boolText, Form.ofChar]
  | integer =>
    obtain ⟨n, hn⟩ := h
    obtain ⟨c, cs, hcs⟩ : ∃ c cs, n.repr.toList = c :: cs := by
      apply List.exists_cons_of_ne_nil
      rw [toList_repr]
      exact List.append_ne_nil_of_right_ne_nil _ Nat.toDigits_ne_nil
    rw [render_of_integer? hn]
    exact ⟨c, cs, hcs, if_pos (isDigit_or_of_mem_repr (hcs ▸ List.mem_cons_self))⟩
  | bytes =>
    obtain ⟨bs, rfl⟩ := h
    exact ⟨'X', _, toList_render_bytes place bs, rfl⟩
  | text =>
    obtain ⟨s, rfl, -⟩ := h
    exact ⟨'"', _, toList_render_text place s, rfl⟩

theorem HasForm.eq {l l' : Literal} {f f' : Form} (hl : l.HasForm f) (hl' : l'.HasForm f') {place : Place}
    {rest rest' : List Char} (h : (l.render place).toList ++ rest = (l'.render place).toList ++ rest') : f = f' := by
  obtain ⟨c, cs, hcs, rfl⟩ := hl.begin place
  obtain ⟨c', cs', hcs', rfl⟩ := hl'.begin place
  rw [hcs, hcs', List.cons_append, List.cons_append, List.cons.injEq] at h
  rw [h.1]

/-- only a string can have a comma in its text -/
theorem HasForm.comma_not_mem {l : Literal} {f : Form} (h : l.HasForm f) (hf : f ≠ .text) (place : Place) :
    ',' ∉ (l.render place).toList := by
  cases f with
  | null =>
    obtain rfl := h
    simp [render]
  | bool =>
    obtain ⟨b, rfl⟩ := h
    cases place <;> cases b <;> simp [render, boolText]
  | integer =>
    obtain ⟨n, hn⟩ := h
    rw [render_of_integer? hn]
    intro hcomma
    exact absurd (isDigit_or_of_mem_repr hcomma) (by decide)
  | bytes =>
    obtain ⟨bs, rfl⟩ := h
    rw [toList_render_bytes]
    simp [Text.Hex.comma_not_mem_encode]
  | text => exact absurd rfl hf

/-- a whole text of a form determines its literal -/
theorem HasForm.agrees_of_render_eq {l l' : Literal} {f : Form} (hl : l.HasForm f) (hl' : l'.HasForm f) {place : Place}
    (h : l.render place = l'.render place) : l.Agrees l' := by
  cases f with
  | null => exact .inl (Eq.trans hl (Eq.symm hl'))
  | bool =>
    obtain ⟨b, rfl⟩ := hl
    obtain ⟨b', rfl⟩ := hl'
    refine .inl (congrArg Literal.bool ?_)
    cases place <;> cases b <;> cases b' <;> simp [render, boolText] at h ⊢
  | integer =>
    obtain ⟨n, hn⟩ := hl
    obtain ⟨n', hn'⟩ := hl'
    rw [render_of_integer? hn, render_of_integer? hn'] at h
    exact .inr ⟨n, hn, repr_injective h ▸ hn'⟩
  | bytes =>
    obtain ⟨bs, rfl⟩ := hl
    obtain ⟨bs', rfl⟩ := hl'
    have hchars := congrArg String.toList h
    rw [toList_render_bytes, toList_render_bytes, List.cons.injEq, List.cons.injEq, List.append_cancel_right_eq]
      at hchars
    exact .inl (congrArg Literal.bytes (Text.Hex.encode_injective hchars.2.2))
  | text =>
    obtain ⟨s, rfl, -⟩ := hl
    obtain ⟨s', rfl, -⟩ := hl'
    have hchars := congrArg String.toList h
    rw [toList_render_text, toList_render_text, List.cons.injEq, List.append_cancel_right_eq] at hchars
    exact .inl (congrArg Literal.text (String.toList_inj.1 hchars.2))

theorem known_render (place : Place) : Text.Known (render place) IsClosed Agrees where
  ne_empty := by
    rintro l ⟨f, hl⟩ hempty
    obtain ⟨c, cs, hcs, -⟩ := hl.begin place
    rw [hempty] at hcs
    cases hcs
  alike := fun _ _ h => h.render_eq place
  cut := by
    rintro l l' rest rest' ⟨f, hl⟩ ⟨f', hl'⟩ hrest hrest' h
    obtain rfl : f = f' := hl.eq hl' h
    by_cases hf : f = .text
    -- a string ends where the next quotation mark stands, all else where a comma does
    · subst hf
      obtain ⟨s, rfl, hs⟩ := hl
      obtain ⟨s', rfl, hs'⟩ := hl'
      rw [toList_render_text, toList_render_text, List.cons_append, List.cons_append, List.append_assoc, List.append_assoc,
        List.cons.injEq] at h
      obtain ⟨hchars, hrests⟩ := Text.eq_of_append_cons_eq hs hs' h.2
      exact ⟨.inl (congrArg Literal.text (String.toList_inj.1 hchars)), hrests⟩
    · obtain ⟨hchars, hrests⟩ := Text.eq_of_append_eq (hl.comma_not_mem hf place) (hl'.comma_not_mem hf place) hrest
        hrest' h
      exact ⟨hl.agrees_of_render_eq hl' (String.toList_inj.1 hchars), hrests⟩

end Literal

/-- **VALUES.** Two lists of literals that show where they end have the same text exactly if they are as long as each
other and agree literal by literal: in kind and in content, only the width of an integer aside. -/
theorem values_unambiguous (place : Literal.Place) {ls ls' : List Literal} (hls : ∀ l ∈ ls, l.IsClosed)
    (hls' : ∀ l ∈ ls', l.IsClosed) :
    Literal.renderList place ls = Literal.renderList place ls' ↔ List.Forall₂ Literal.Agrees ls ls' :=
  (Literal.known_render place).intercalate_eq_iff hls hls'

/-- a string that is much like two further literals, bytes that spell a letter, and a number in words of two widths -/
theorem values_unambiguous_of_widths :
    let ls : List Literal := [.text "1', NULL", .int32 (-7), .bytes [0x61], .bool true, .null]
    let ls' : List Literal := [.text "1', NULL", .int64 (-7), .bytes [0x61], .bool true, .null]
    (∀ l ∈ ls, l.IsClosed) ∧ (∀ l ∈ ls', l.IsClosed) ∧
      Literal.renderList .values ls = Literal.renderList .values ls' ∧ List.Forall₂ Literal.Agrees ls ls' := by
  intro ls ls'
  have hstring : (Literal.text "1', NULL").IsClosed := ⟨.text, _, rfl, by decide⟩
  have hbytes : (Literal.bytes [0x61]).IsClosed := ⟨.bytes, _, rfl⟩
  have hbool : (Literal.bool true).IsClosed := ⟨.bool, _, rfl⟩
  have hnull : Literal.null.IsClosed := ⟨.null, rfl⟩
  have hclosed (number : Literal) (hnumber : number.IsClosed) :
      ∀ l ∈ [.text "1', NULL", number, .bytes [0x61], .bool true, .null], l.IsClosed := by
    simp [hstring, hnumber, hbytes, hbool, hnull]
  have hls : ∀ l ∈ ls, l.IsClosed := hclosed _ ⟨.integer, -7, rfl⟩
  have hls' : ∀ l ∈ ls', l.IsClosed := hclosed _ ⟨.integer, -7, rfl⟩
  have htext : Literal.renderList .values ls = Literal.renderList .values ls' := rfl
  exact ⟨hls, hls', htext, (values_unambiguous .values hls hls').1 htext⟩

/-- a quotation mark in a string makes it look like two -/
example : Literal.renderList .values [.text "a\", \"b"] = Literal.renderList .values [.text "a", .text "b"] := rfl

/-! ## Assignments -/

namespace Assignments

/-- an assignment whose text shows where its name and where it itself ends -/
def IsClosedPair (p : String × Literal) : Prop := '=' ∉ p.1.toList ∧ p.2.IsClosed

/-- the same name, and literals that agree -/
def PairAgrees (p q : String × Literal) : Prop := p.1 = q.1 ∧ p.2.Agrees q.2

theorem toList_pairText (p : String × Literal) :
    (pairText p).toList = p.1.toList ++ '=' :: (p.2.render .set).toList := by
  simp [pairText]

theorem known_pairText : Text.Known pairText IsClosedPair PairAgrees where
  ne_empty := by
    intro p _ hempty
    simp [pairText] at hempty
  alike := by
    rintro p q ⟨hname, hagrees⟩
    rw [pairText, pairText, hname, hagrees.render_eq]
  cut := by
    intro p q rest rest' hp hq hrest hrest' h
    rw [toList_pairText, toList_pairText, List.append_assoc, List.append_assoc, List.cons_append, List.cons_append] at h
    obtain ⟨hname, hvalue⟩ := Text.eq_of_append_cons_eq hp.1 hq.1 h
    obtain ⟨hagrees, hrests⟩ := (Literal.known_render .set).cut _ _ _ _ hp.2 hq.2 hrest hrest' hvalue
    exact ⟨⟨String.toList_inj.1 hname, hagrees⟩, hrests⟩

end Assignments

/-- **SET.** Two records whose names have no equals sign and whose literals show where they end are written alike behind
SET exactly if they are as long as each other, with the same names in the same order and literals that agree. -/
theorem set_unambiguous {r r' : Record} (hr : ∀ p ∈ r, Assignments.IsClosedPair p)
    (hr' : ∀ p ∈ r', Assignments.IsClosedPair p) :
    (Clause.set (.record r)).fragment = (Clause.set (.record r')).fragment ↔ List.Forall₂ Assignments.PairAgrees r r' := by
  have hfragment : (Clause.set (.record r)).fragment = (Clause.set (.record r')).fragment ↔
      ", ".intercalate (r.map Assignments.pairText) = ", ".intercalate (r'.map Assignments.pairText) :=
    String.append_right_inj " SET "
  rw [hfragment]
  exact Assignments.known_pairText.intercalate_eq_iff hr hr'

/-- a name that comes twice and looks like more than one, and a string that looks like an assignment -/
theorem set_unambiguous_of_repeated :
    let r : Record := [("a, \"b", .text "x', c=1"), ("a, \"b", .uint64 7)]
    let r' : Record := [("a, \"b", .text "x', c=1"), ("a, \"b", .int32 7)]
    (∀ p ∈ r, Assignments.IsClosedPair p) ∧ (∀ p ∈ r', Assignments.IsClosedPair p) ∧
      (Clause.set (.record r)).fragment = (Clause.set (.record r')).fragment ∧
      List.Forall₂ Assignments.PairAgrees r r' := by
  intro r r'
  have hstring : (Literal.text "x', c=1").IsClosed := ⟨.text, _, rfl, by decide⟩
  have hclosed (number : Literal) (hnumber : number.IsClosed) :
      ∀ p ∈ [("a, \"b", .text "x', c=1"), ("a, \"b", number)], Assignments.IsClosedPair p := by
    simp [Assignments.IsClosedPair, hstring, hnumber]
  have hr : ∀ p ∈ r, Assignments.IsClosedPair p := hclosed _ ⟨.integer, 7, rfl⟩
  have hr' : ∀ p ∈ r', Assignments.IsClosedPair p := hclosed _ ⟨.integer, 7, rfl⟩
  have htext : (Clause.set (.record r)).fragment = (Clause.set (.record r')).fragment := rfl
  exact ⟨hr, hr', htext, (set_unambiguous hr hr').1 htext⟩

end FluentSql
