/-
Texts and the values that they spell.

The grammar of JSON, as relations between a text, what its beginning spells and what is left of it: blanks between the
parts, strings with any escapes, numbers in any notation, the members of an object as they stand, repeated or not. A
number goes as far as it can, and its value is that of its digits.
- `Spells`: a whole text, with blanks around the value.
- `spells_compact`: the compact text of a value without floats spells that value. The induction is on the value, the
  three kinds of text together.
-/
import FluentSql.Proofs.Json.Nested
import FluentSql.Proofs.Json.Scalars

namespace FluentSql.Json.Spelling

open FluentSql.Json.Parser
open FluentSql.Text

/-! ## Strings -/

/-- the letters that may stand behind a backslash, and for what -/
def letters : List (Char × Char) :=
  [('"', '"'), ('\\', '\\'), ('/', '/'), ('b', '\x08'), ('f', '\x0c'), ('n', '\n'), ('r', '\r'), ('t', '\t')]

/-- the characters behind a quotation mark, up to the one that closes the string -/
inductive Chars : List Char → List Char → List Char → Prop
  | close {rest} : Chars ('"' :: rest) [] rest
  | plain {c s cs rest} (hquote : c ≠ '"') (hslash : c ≠ '\\') (hcontrol : 0x20 ≤ c.toNat) (h : Chars s cs rest) :
      Chars (c :: s) (c :: cs) rest
  | letter {e c s cs rest} (he : (e, c) ∈ letters) (h : Chars s cs rest) : Chars ('\\' :: e :: s) (c :: cs) rest
  | unit {ds n s cs rest} (hds : ds.length = 4) (hn : Hex.number? ds = some n) (hwhole : n < 0xD800 ∨ 0xDFFF < n)
      (h : Chars s cs rest) : Chars ('\\' :: 'u' :: (ds ++ s)) (Char.ofNat n :: cs) rest
  | pair {ds ds' high low s cs rest} (hds : ds.length = 4) (hhigh : Hex.number? ds = some high)
      (hfirst : 0xD800 ≤ high ∧ high < 0xDC00) (hds' : ds'.length = 4) (hlow : Hex.number? ds' = some low)
      (hsecond : 0xDC00 ≤ low ∧ low ≤ 0xDFFF) (h : Chars s cs rest) :
      Chars ('\\' :: 'u' :: (ds ++ '\\' :: 'u' :: (ds' ++ s)))
        (Char.ofNat (0x10000 + (high - 0xD800) * 0x400 + (low - 0xDC00)) :: cs) rest

/-! ## Numbers -/

/-- the exponent of a number: the letter, a sign or none, and digits -/
structure ExponentText where
  letter : Char
  letter_eq : letter = 'e' ∨ letter = 'E'
  sign : List Char
  sign_mem : sign ∈ [[], ['+'], ['-']]
  digits : List Char
  isDigits : IsDigits digits

/-- a number as it is written -/
structure NumberText where
  negative : Bool
  whole : List Char
  whole_isDigits : IsDigits whole
  /-- a zero stands alone before the point -/
  whole_zero : '0' ∈ whole.head? → whole = ['0']
  fraction : Option (List Char)
  fraction_isDigits : ∀ ds ∈ fraction, IsDigits ds
  exponent : Option ExponentText

namespace ExponentText

def chars (e : ExponentText) : List Char := e.letter :: (e.sign ++ e.digits)

/-- the exponent; from 2^31 on it is as if it were 2^31, if there is a value at all -/
def value? (e : ExponentText) (isZero : Bool) : Option Int :=
  let down := e.sign == ['-']
  match absorb 0x80000000 0 e.digits with
  | (n, []) => some (if down then -n else n)
  | (_, _ :: _) => if isZero || down then some (if down then -0x80000000 else 0x80000000) else none

end ExponentText

namespace NumberText

def fractionChars (t : NumberText) : List Char := t.fraction.elim [] ('.' :: ·)

def exponentChars (t : NumberText) : List Char := t.exponent.elim [] ExponentText.chars

/-- what is behind the sign -/
def unsigned (t : NumberText) : List Char := t.whole ++ (t.fractionChars ++ t.exponentChars)

def chars (t : NumberText) : List Char := if t.negative then '-' :: t.unsigned else t.unsigned

def isZero (t : NumberText) : Bool := (t.whole ++ t.fraction.getD []).all (· == '0')

/-- the value of its digits; a number that is too large has none -/
def value? (t : NumberText) : Option Json :=
  match t.exponent with
  | none => numberValue? t.negative t.whole t.fraction none
  | some e => (e.value? t.isZero).bind fun n => numberValue? t.negative t.whole t.fraction (some n)

end NumberText

/-- a number begins with a digit or a minus sign -/
theorem NumberText.exists_chars (t : NumberText) (rest : List Char) :
    (t.negative = true ∧ t.chars ++ rest = '-' :: (t.unsigned ++ rest)) ∨
      (t.negative = false ∧ t.chars = t.unsigned ∧ ∃ c s, t.unsigned ++ rest = c :: s ∧ c.isDigit = true) := by
  cases hnegative : t.negative with
  | true =>
    refine .inl ⟨rfl, ?_⟩
    rw [chars, hnegative]
    rfl
  | false =>
    obtain ⟨hne, hall⟩ := t.whole_isDigits
    obtain ⟨c, cs, hwhole⟩ := List.exists_cons_of_ne_nil hne
    refine .inr ⟨rfl, by rw [chars, hnegative]; rfl, c, cs ++ (t.fractionChars ++ t.exponentChars) ++ rest, ?_,
      hall c (hwhole ▸ List.mem_cons_self)⟩
    rw [unsigned, hwhole]
    rfl

theorem NumberText.skipBlanks_chars (t : NumberText) (rest : List Char) :
    skipBlanks (t.chars ++ rest) = t.chars ++ rest := by
  rcases t.exists_chars rest with ⟨-, hchars⟩ | ⟨-, hchars, c, s, hunsigned, hc⟩
  · rw [hchars, skipBlanks_cons (by decide)]
  · rw [hchars, hunsigned, skipBlanks_cons (isBlank_of_isDigit hc)]

/-! ## Values -/

mutual

/-- the beginning of a text spells a value, and this is left of it -/
inductive Value : List Char → Json → List Char → Prop
  | null {s rest} (h : skipBlanks s = 'n' :: 'u' :: 'l' :: 'l' :: rest) : Value s .null rest
  | true {s rest} (h : skipBlanks s = 't' :: 'r' :: 'u' :: 'e' :: rest) : Value s (.bool true) rest
  | false {s rest} (h : skipBlanks s = 'f' :: 'a' :: 'l' :: 's' :: 'e' :: rest) : Value s (.bool false) rest
  | number {s rest v} (t : NumberText) (h : skipBlanks s = t.chars ++ rest) (hv : t.value? = some v)
      (hstops : Stops rest) : Value s v rest
  | text {s s₁ cs rest} (h : skipBlanks s = '"' :: s₁) (hcs : Chars s₁ cs rest) :
      Value s (.text (String.ofList cs)) rest
  | emptyArray {s s₁ rest} (h : skipBlanks s = '[' :: s₁) (hclose : skipBlanks s₁ = ']' :: rest) :
      Value s (.array []) rest
  | array {s s₁ s₂ rest x xs} (h : skipBlanks s = '[' :: s₁) (hx : Value s₁ x s₂) (hxs : Items s₂ xs rest) :
      Value s (.array (x :: xs)) rest
  | emptyObject {s s₁ rest} (h : skipBlanks s = '\x7b' :: s₁) (hclose : skipBlanks s₁ = '\x7d' :: rest) :
      Value s (.object []) rest
  | object {s s₁ s₂ rest m ms} (h : skipBlanks s = '\x7b' :: s₁) (hm : Member s₁ m s₂) (hms : MoreMembers s₂ ms rest) :
      Value s (.object (m :: ms)) rest

/-- the items behind the first, up to the closing bracket -/
inductive Items : List Char → List Json → List Char → Prop
  | close {s rest} (h : skipBlanks s = ']' :: rest) : Items s [] rest
  | next {s s₁ s₂ rest x xs} (h : skipBlanks s = ',' :: s₁) (hx : Value s₁ x s₂) (hxs : Items s₂ xs rest) :
      Items s (x :: xs) rest

/-- one member -/
inductive Member : List Char → String × Json → List Char → Prop
  | mk {s s₁ s₂ s₃ cs v rest} (h : skipBlanks s = '"' :: s₁) (hname : Chars s₁ cs s₂) (hcolon : skipBlanks s₂ = ':' :: s₃)
      (hv : Value s₃ v rest) : Member s (String.ofList cs, v) rest

/-- the members behind the first, up to the closing brace -/
inductive MoreMembers : List Char → List (String × Json) → List Char → Prop
  | close {s rest} (h : skipBlanks s = '\x7d' :: rest) : MoreMembers s [] rest
  | next {s s₁ s₂ rest m ms} (h : skipBlanks s = ',' :: s₁) (hm : Member s₁ m s₂) (hms : MoreMembers s₂ ms rest) :
      MoreMembers s (m :: ms) rest

end

/-- the text spells the value, with blanks around it -/
def Spells (text : String) (v : Json) : Prop := ∃ rest, Value text.toList v rest ∧ skipBlanks rest = []

/-! ## Compact texts -/

theorem stops_itemChars (xs : List Json) (rest : List Char) : Stops (itemChars xs ++ rest) := by
  cases xs <;> exact ⟨by decide, by decide, by decide, by decide⟩

theorem stops_memberChars (ms : List (String × Json)) (rest : List Char) : Stops (memberChars ms ++ rest) := by
  cases ms <;> exact ⟨by decide, by decide, by decide, by decide⟩

theorem chars_escaped (c : Char) {s cs rest : List Char} (h : Chars s cs rest) :
    Chars (escaped c ++ s) (c :: cs) rest := by
  unfold escaped
  split
  iterate 7 exact .letter (by decide) h
  next hquote hslash _ _ _ _ _ =>
    split
    · next hcontrol =>
      have hunit : Chars ('\\' :: 'u' :: (['0', '0', Nat.digitChar (c.toNat / 16), Nat.digitChar (c.toNat % 16)] ++ s))
          (Char.ofNat c.toNat :: cs) rest := .unit rfl (number?_digitChars hcontrol) (.inl (by omega)) h
      rwa [Char.ofNat_toNat] at hunit
    · next hplain => exact .plain hquote hslash (Nat.le_of_not_lt hplain) h

theorem chars_string (cs rest : List Char) : Chars (cs.flatMap escaped ++ '"' :: rest) cs rest := by
  induction cs with
  | nil => exact .close
  | cons c cs ih =>
    rw [List.flatMap_cons, List.append_assoc]
    exact chars_escaped c ih

/-- an integer, as it is written -/
def intText (k : WordInt) : NumberText where
  negative := decide (k.val < 0)
  whole := Nat.toDigits 10 k.val.natAbs
  whole_isDigits := isDigits_toDigits _
  whole_zero := toDigits_zero_head
  fraction := none
  fraction_isDigits := fun _ h => nomatch h
  exponent := none

theorem chars_intText (k : WordInt) : (intText k).chars = chars (.int k) := by
  obtain ⟨n, hlower, hupper⟩ := k
  cases n with
  | ofNat n =>
    have hsign : (intText ⟨.ofNat n, hlower, hupper⟩).negative = false := by simp [intText]
    rw [chars_ofNat, NumberText.chars, if_neg (by rw [hsign]; decide)]
    exact List.append_nil _
  | negSucc n =>
    have hsign : (intText ⟨.negSucc n, hlower, hupper⟩).negative = true := by simp [intText, Int.negSucc_lt_zero]
    rw [chars_negSucc, NumberText.chars, if_pos hsign]
    exact congrArg ('-' :: ·) (List.append_nil _)

theorem value?_intText (k : WordInt) : (intText k).value? = some (.int k) := by
  refine numberValue?_toDigits (fun hnegative => ?_) ?_
  · have hsign : k.val < 0 := of_decide_eq_true hnegative
    omega
  · show k.val = if decide (k.val < 0) = true then -(k.val.natAbs : Int) else k.val.natAbs
    simp only [decide_eq_true_eq]
    split <;> omega

/-- behind the quotation mark of a string that is written -/
theorem chars_stringChars (s : String) (rest : List Char) :
    ∃ s₁, stringChars s ++ rest = '"' :: s₁ ∧ Chars s₁ s.toList rest := by
  refine ⟨s.toList.flatMap escaped ++ '"' :: rest, ?_, chars_string s.toList rest⟩
  rw [stringChars, List.cons_append, List.append_assoc]
  rfl

theorem text_spelled (s : String) (rest : List Char) : Value (stringChars s ++ rest) (.text s) rest := by
  obtain ⟨s₁, hquote, hs₁⟩ := chars_stringChars s rest
  have hvalue := Value.text (s := stringChars s ++ rest) (by rw [hquote]; rfl) hs₁
  rwa [String.ofList_toList] at hvalue

theorem int_spelled (k : WordInt) {rest : List Char} (hrest : Stops rest) :
    Value (chars (.int k) ++ rest) (.int k) rest := by
  rw [← chars_intText]
  exact .number (intText k) ((intText k).skipBlanks_chars rest) (value?_intText k) hrest

theorem member_spelled (name : String) {s rest : List Char} {v : Json} (h : Value s v rest) :
    Member (stringChars name ++ ':' :: s) (name, v) rest := by
  obtain ⟨s₁, hquote, hs₁⟩ := chars_stringChars name (':' :: s)
  have hmember := Member.mk (s := stringChars name ++ ':' :: s) (by rw [hquote]; rfl) hs₁ rfl h
  rwa [String.ofList_toList] at hmember

mutual

/-- what is written for a value spells it -/
theorem value_spelled : ∀ (j : Json) (rest : List Char), j.all (fun v => !v.isFloat) = true → Stops rest →
    Value (chars j ++ rest) j rest
  | .null, rest, _, _ => .null rfl
  | .bool true, rest, _, _ => .true rfl
  | .bool false, rest, _, _ => .false rfl
  | .int k, rest, _, hrest => int_spelled k hrest
  | .float x, rest, h, _ => nomatch h
  | .text s, rest, _, _ => text_spelled s rest
  | .array [], rest, _, _ => .emptyArray rfl rfl
  | .array (x :: xs), rest, h, _ => by
    simp only [all, allItems, Bool.and_eq_true] at h
    have hfirst := value_spelled x (itemChars xs ++ rest) h.2.1 (stops_itemChars xs rest)
    rw [chars, List.cons_append, List.append_assoc]
    exact .array rfl hfirst (items_spelled xs rest h.2.2)
  | .object [], rest, _, _ => .emptyObject rfl rfl
  | .object ((name, v) :: ms), rest, h, _ => by
    simp only [all, allMembers, Bool.and_eq_true] at h
    have hfirst := value_spelled v (memberChars ms ++ rest) h.2.1 (stops_memberChars ms rest)
    rw [chars, List.cons_append, List.append_assoc, List.cons_append, List.append_assoc]
    exact .object rfl (member_spelled name hfirst) (members_spelled ms rest h.2.2)

/-- and for the items behind the first one of an array -/
theorem items_spelled : ∀ (xs : List Json) (rest : List Char), allItems (fun v => !v.isFloat) xs = true →
    Items (itemChars xs ++ rest) xs rest
  | [], rest, _ => .close rfl
  | x :: xs, rest, h => by
    simp only [allItems, Bool.and_eq_true] at h
    have hfirst := value_spelled x (itemChars xs ++ rest) h.1 (stops_itemChars xs rest)
    rw [itemChars, List.cons_append, List.append_assoc]
    exact .next rfl hfirst (items_spelled xs rest h.2)

/-- and for the members behind the first one of an object -/
theorem members_spelled : ∀ (ms : List (String × Json)) (rest : List Char), allMembers (fun v => !v.isFloat) ms = true →
    MoreMembers (memberChars ms ++ rest) ms rest
  | [], rest, _ => .close rfl
  | (name, v) :: ms, rest, h => by
    simp only [allMembers, Bool.and_eq_true] at h
    have hfirst := value_spelled v (memberChars ms ++ rest) h.1 (stops_memberChars ms rest)
    rw [memberChars, List.cons_append, List.append_assoc, List.cons_append, List.append_assoc]
    exact .next rfl (member_spelled name hfirst) (members_spelled ms rest h.2)

end

/-- **Compact texts.** The compact text of a value without floats spells that value. -/
theorem spells_compact {j : Json} (h : j.all (fun v => !v.isFloat) = true) : Spells j.compact j := by
  have hvalue := value_spelled j [] h trivial
  rw [List.append_nil] at hvalue
  exact ⟨[], by rwa [compact, String.toList_ofList], rfl⟩

end FluentSql.Json.Spelling
