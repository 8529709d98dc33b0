/-
Texts that spell a value are read.

A reader takes what is spelled and leaves the rest (`Takes`): a string up to its closing quotation mark
(`stringBody_takes`), a number as far as it goes (`NumberText.number_eq`), a scalar as a whole (`head_of_scalar`). An
array or an object shows by its bracket (`head_of_container`).
- `value_takes`: any value is read with as many brackets open at once as it has, whether to be kept or to be passed over.
  To be kept, it must stand for itself (`isVerbatim`): no name of an object comes twice, and none begins with the reserved
  name. The induction is on how the text spells the value, for values, items and members together.
- `depth_le`: a value is not deeper than its text is long.
-/
import FluentSql.Proofs.Json.Extent
import FluentSql.Proofs.Json.Grammar
import FluentSql.Proofs.Members
import Mathlib.Data.List.DropRight

namespace FluentSql.Json.Spelling

open FluentSql.Json.Parser
open FluentSql.Text

/-! ## What is taken -/

/-- the reader succeeds and leaves the rest; what it gives is as spelled if it is to be kept -/
def Takes {α : Type} (keep : Bool) (r : Except Failure (Reading α)) (a : α) (rest : List Char) : Prop :=
  ∃ a', r = .ok (a', rest) ∧ (keep = true → a' = a)

theorem Takes.map {α β : Type} {keep : Bool} {r : Except Failure (Reading α)} {a : α} {rest : List Char} {f : α → β}
    {b : β} (h : Takes keep r a rest) (hb : keep = true → f a = b) :
    Takes keep (r.map fun x => (f x.1, x.2)) b rest := by
  obtain ⟨a', rfl, ha⟩ := h
  exact ⟨f a', rfl, fun hkeep => by rw [ha hkeep, hb hkeep]⟩

/-! ## Strings -/

theorem escape_letter {e c : Char} (he : (e, c) ∈ letters) (keep : Bool) (s : List Char) :
    escape keep (e :: s) = .ok (c, s) := by
  simp only [letters, List.mem_cons, Prod.mk.injEq, List.not_mem_nil, or_false] at he
  rcases he with ⟨rfl, rfl⟩ | ⟨rfl, rfl⟩ | ⟨rfl, rfl⟩ | ⟨rfl, rfl⟩ | ⟨rfl, rfl⟩ | ⟨rfl, rfl⟩ | ⟨rfl, rfl⟩ | ⟨rfl, rfl⟩
  all_goals rfl

/-- one character and the rest of the string -/
theorem stringBody_plain {keep : Bool} {steps : Nat} {c : Char} (hquote : c ≠ '"') (hslash : c ≠ '\\')
    (hcontrol : 0x20 ≤ c.toNat) (s : List Char) :
    stringBody keep (steps + 1) (c :: s) = (stringBody keep steps s).map fun r => (c :: r.1, r.2) := by
  rw [stringBody]
  · rw [if_neg (by omega)]
    cases stringBody keep steps s <;> rfl
  · exact hquote
  · exact hslash

theorem stringBody_escape {keep : Bool} {steps : Nat} {c : Char} {s s' : List Char} (h : escape keep s = .ok (c, s')) :
    stringBody keep (steps + 1) ('\\' :: s) = (stringBody keep steps s').map fun r => (c :: r.1, r.2) := by
  rw [stringBody, h]
  simp only [bind, Except.bind]
  cases stringBody keep steps s' <;> rfl

/-- a number that is no surrogate -/
theorem escape_unit {ds : List Char} {n : Nat} (hds : ds.length = 4) (hn : Hex.number? ds = some n)
    (hwhole : n < 0xD800 ∨ 0xDFFF < n) (keep : Bool) (s : List Char) :
    escape keep ('u' :: (ds ++ s)) = .ok (Char.ofNat n, s) := by
  rw [escape, unit_append hds hn]
  exact if_pos hwhole

/-- a surrogate that is passed over -/
theorem escape_surrogate {ds : List Char} {n : Nat} (hds : ds.length = 4) (hn : Hex.number? ds = some n)
    (hsurrogate : 0xD800 ≤ n ∧ n ≤ 0xDFFF) (s : List Char) :
    escape false ('u' :: (ds ++ s)) = .ok ('\uFFFD', s) := by
  rw [escape, unit_append hds hn]
  exact if_neg (by omega)

/-- a pair of surrogates that is kept -/
theorem escape_pair {ds ds' : List Char} {high low : Nat} (hds : ds.length = 4) (hhigh : Hex.number? ds = some high)
    (hfirst : 0xD800 ≤ high ∧ high < 0xDC00) (hds' : ds'.length = 4) (hlow : Hex.number? ds' = some low)
    (hsecond : 0xDC00 ≤ low ∧ low ≤ 0xDFFF) (s : List Char) :
    escape true ('u' :: (ds ++ '\\' :: 'u' :: (ds' ++ s))) =
      .ok (Char.ofNat (0x10000 + (high - 0xD800) * 0x400 + (low - 0xDC00)), s) := by
  have hsurrogate : ¬ (high < 0xD800 ∨ 0xDFFF < high) := by omega
  have hlead : ¬ 0xDC00 ≤ high := by omega
  rw [escape, unit_append hds hhigh]
  simp only [bind, Except.bind, if_neg hsurrogate, if_neg hlead, lowHalf, unit_append hds' hlow, if_pos hsecond]
  rfl

/-- **Strings.** A string is taken up to its closing quotation mark. -/
theorem stringBody_takes (keep : Bool) {s cs rest : List Char} (h : Chars s cs rest) :
    ∀ steps : Nat, s.length ≤ steps → Takes keep (stringBody keep steps s) cs rest := by
  induction h with
  | close =>
    intro steps _
    cases steps <;> exact ⟨[], rfl, fun _ => rfl⟩
  | plain hquote hslash hcontrol _ ih =>
    intro steps hsteps
    obtain ⟨steps, rfl⟩ := Nat.exists_eq_add_of_lt hsteps
    rw [stringBody_plain hquote hslash hcontrol]
    exact (ih _ (by omega)).map fun _ => rfl
  | letter he _ ih =>
    intro steps hsteps
    obtain ⟨steps, rfl⟩ := Nat.exists_eq_add_of_lt hsteps
    rw [stringBody_escape (escape_letter he keep _)]
    exact (ih _ (by rw [List.length_cons]; omega)).map fun _ => rfl
  | unit hds hn hwhole _ ih =>
    intro steps hsteps
    obtain ⟨steps, rfl⟩ := Nat.exists_eq_add_of_lt hsteps
    rw [stringBody_escape (escape_unit hds hn hwhole keep _)]
    exact (ih _ (by rw [List.length_cons, List.length_append]; omega)).map fun _ => rfl
  | @pair ds ds' high low s cs rest hds hhigh hfirst hds' hlow hsecond _ ih =>
    intro steps hsteps
    simp only [List.length_cons, List.length_append] at hsteps
    obtain ⟨steps, rfl⟩ : ∃ n, steps = n + 2 := ⟨steps - 2, by omega⟩
    cases keep with
    | true =>
      rw [stringBody_escape (escape_pair hds hhigh hfirst hds' hlow hsecond s)]
      exact (ih _ (by omega)).map fun _ => rfl
    | false =>
      -- passed over, the halves of a pair are two characters
      rw [stringBody_escape (escape_surrogate hds hhigh (by omega) _),
        stringBody_escape (escape_surrogate hds' hlow (by omega) s)]
      have htail := ih steps (by omega)
      exact (htail.map fun _ => rfl).map fun hkeep => nomatch hkeep

/-! ## Numbers -/

theorem fractionPart_digits (keep : Bool) {ds s : List Char} (hds : IsDigits ds) (hs : NoDigit s) :
    fractionPart keep ('.' :: (ds ++ s)) = .ok (some ds, s) := by
  obtain ⟨hne, hall⟩ := hds
  obtain ⟨c, cs, rfl⟩ := List.exists_cons_of_ne_nil hne
  have htake := takeWhile_digits hs hall
  have hdrop := dropWhile_digits hs hall
  rw [List.cons_append] at htake hdrop ⊢
  simp only [fractionPart, if_pos (hall c List.mem_cons_self), htake, hdrop]

theorem exponentPart_of_value (keep : Bool) {e : ExponentText} {isZero : Bool} {n : Int} (hn : e.value? isZero = some n)
    {s : List Char} (hs : NoDigit s) : exponentPart keep isZero (e.chars ++ s) = .ok (some n, s) := by
  obtain ⟨c, hc, sign, hsign, digits, hne, hall⟩ := e
  obtain ⟨d, ds, rfl⟩ := List.exists_cons_of_ne_nil hne
  have hd : d.isDigit = true := hall d List.mem_cons_self
  have htake := takeWhile_digits hs hall
  have hdrop := dropWhile_digits hs hall
  rw [List.cons_append] at htake hdrop
  have hplus : d ≠ '+' := ne_of_isDigit hd (by decide)
  have hminus : d ≠ '-' := ne_of_isDigit hd (by decide)
  simp only [ExponentText.value?] at hn
  simp only [List.mem_cons, List.not_mem_nil, or_false] at hsign
  rcases hsign with rfl | rfl | rfl
  all_goals
    simp [ExponentText.chars, exponentPart, hc, hplus, hminus, hd, htake, hdrop]
    split at hn
    · next m h => simpa [h] using hn
    · next h =>
      simp at hn
      simp [h, hn]

namespace NumberText

variable (t : NumberText) {s : List Char} (hs : Stops s)
include hs

theorem noDigit_exponentChars : NoDigit (t.exponentChars ++ s) := by
  unfold exponentChars
  cases t.exponent with
  | none => exact hs.noDigit
  | some e =>
    intro c hc
    obtain rfl : e.letter = c := Option.some.inj hc
    rcases e.letter_eq with h | h <;> rw [h] <;> decide

theorem no_point_exponentChars : '.' ∉ (t.exponentChars ++ s).head? := by
  unfold exponentChars
  cases t.exponent with
  | none => exact hs.no_point
  | some e =>
    intro hc
    have hletter : e.letter = '.' := Option.some.inj hc
    rcases e.letter_eq with h | h <;> rw [h] at hletter <;> revert hletter <;> decide

theorem noDigit_fractionChars : NoDigit (t.fractionChars ++ (t.exponentChars ++ s)) := by
  unfold fractionChars
  cases t.fraction with
  | none => exact t.noDigit_exponentChars hs
  | some ds =>
    intro c hc
    obtain rfl : '.' = c := Option.some.inj hc
    decide

theorem fractionPart_eq (keep : Bool) :
    fractionPart keep (t.fractionChars ++ (t.exponentChars ++ s)) = .ok (t.fraction, t.exponentChars ++ s) := by
  have hdigits := t.fraction_isDigits
  unfold fractionChars
  cases hfraction : t.fraction with
  | none => exact fractionPart_none keep (t.no_point_exponentChars hs)
  | some ds => exact fractionPart_digits keep (hdigits ds hfraction) (t.noDigit_exponentChars hs)

/-- **Numbers.** A number that has a value is taken with that value. -/
theorem number_eq (keep : Bool) {v : Json} (hv : t.value? = some v) :
    number keep t.negative (t.unsigned ++ s) = .ok (v, s) := by
  have hchars : t.unsigned ++ s = t.whole ++ (t.fractionChars ++ (t.exponentChars ++ s)) := by
    simp only [unsigned, List.append_assoc]
  have hwhole := wholePart_digits keep t.whole_isDigits t.whole_zero (t.noDigit_fractionChars hs)
  unfold number
  simp only [hchars, hwhole, t.fractionPart_eq hs keep, bind, Except.bind]
  unfold value? at hv
  unfold exponentChars
  cases hexponent : t.exponent with
  | none =>
    rw [hexponent] at hv
    simp only [Option.elim_none, List.nil_append, exponentPart_none keep _ hs, hv]
    rfl
  | some e =>
    rw [hexponent] at hv
    obtain ⟨n, hn, hv⟩ := Option.bind_eq_some_iff.1 hv
    have hexponentPart := exponentPart_of_value keep hn hs.noDigit
    unfold isZero at hexponentPart
    simp only [Option.elim_some, hexponentPart, hv]
    rfl

end NumberText

theorem NumberText.isScalar_of_value? (t : NumberText) {v : Json} (hv : t.value? = some v) : v.isScalar = true :=
  isScalar_of_number (t.number_eq (s := []) trivial true hv)

/-! ## Heads -/

theorem skipBlanks_idem (s : List Char) : skipBlanks (skipBlanks s) = skipBlanks s := List.dropWhile_idempotent ..

/-- blanks in front do not count -/
theorem head_skipBlanks (keep : Bool) (steps : Nat) (s : List Char) :
    head keep steps (skipBlanks s) = head keep steps s := by
  rw [head, head, skipBlanks_idem]

theorem length_of_skipBlanks {s s' : List Char} {c : Char} (h : skipBlanks s = c :: s') : s'.length < s.length := by
  have hle := length_skipBlanks_le s
  rw [h, List.length_cons] at hle
  exact hle

theorem head_number {keep : Bool} {steps : Nat} {s rest : List Char} (t : NumberText) {v : Json}
    (h : skipBlanks s = t.chars ++ rest) (hv : t.value? = some v) (hrest : Stops rest) :
    head keep steps s = .ok (.scalar v, rest) := by
  have hnumber := t.number_eq hrest keep hv
  rw [← head_skipBlanks, h]
  rcases t.exists_chars rest with ⟨hnegative, hchars⟩ | ⟨hnegative, hchars, c, s', hunsigned, hc⟩
  · rw [hnegative] at hnumber
    rw [hchars, head, skipBlanks_cons (by decide)]
    simp only [hnumber]
    rfl
  · rw [hnegative, hunsigned] at hnumber
    rw [hchars, hunsigned, head_digit hc, hnumber]
    rfl

/-- a scalar is taken whole -/
theorem head_of_scalar (keep : Bool) {s rest : List Char} {v : Json} (h : Value s v rest) (hv : v.isScalar = true)
    {steps : Nat} (hsteps : s.length ≤ steps) :
    ∃ v', head keep steps s = .ok (.scalar v', rest) ∧ (keep = true → v' = v) := by
  cases h with
  | null h => exact ⟨_, by rw [head, h]; rfl, fun _ => rfl⟩
  | true h => exact ⟨_, by rw [head, h]; rfl, fun _ => rfl⟩
  | false h => exact ⟨_, by rw [head, h]; rfl, fun _ => rfl⟩
  | number t h hvalue hstops => exact ⟨v, head_number t h hvalue hstops, fun _ => rfl⟩
  | @text s s₁ cs rest h hcs =>
    have hlength := length_of_skipBlanks h
    obtain ⟨cs', hread, hkeep⟩ := stringBody_takes keep hcs steps (by omega)
    refine ⟨.text (String.ofList cs'), ?_, fun hk => by rw [hkeep hk]⟩
    rw [head, h]
    simp only [hread]
    rfl
  | emptyArray => cases hv
  | array => cases hv
  | emptyObject => cases hv
  | object => cases hv

theorem head_bracket {keep : Bool} {steps : Nat} {s s₁ : List Char} (h : skipBlanks s = '[' :: s₁) :
    head keep steps s = .ok (.openArray, s₁) := by
  rw [head, h]
  rfl

theorem head_brace {keep : Bool} {steps : Nat} {s s₁ : List Char} (h : skipBlanks s = '\x7b' :: s₁) :
    head keep steps s = .ok (.openObject, s₁) := by
  rw [head, h]
  rfl

/-- an array or an object shows by its bracket -/
theorem head_of_container (keep : Bool) (steps : Nat) {s rest : List Char} {v : Json} (h : Value s v rest)
    (hv : v.isScalar = false) : ∃ s₁,
      (head keep steps s = .ok (.openArray, s₁) ∧ ∃ xs, v = .array xs) ∨
        (head keep steps s = .ok (.openObject, s₁) ∧ ∃ ms, v = .object ms) := by
  cases h with
  | emptyArray h => exact ⟨_, .inl ⟨head_bracket h, _, rfl⟩⟩
  | array h => exact ⟨_, .inl ⟨head_bracket h, _, rfl⟩⟩
  | emptyObject h => exact ⟨_, .inr ⟨head_brace h, _, rfl⟩⟩
  | object h => exact ⟨_, .inr ⟨head_brace h, _, rfl⟩⟩
  | number t _ hvalue =>
    rw [t.isScalar_of_value? hvalue] at hv
    cases hv
  | null => cases hv
  | true => cases hv
  | false => cases hv
  | text => cases hv

/-! ## Between values -/

/-- a value does not begin as an array ends -/
theorem begin_of_value {s rest : List Char} {v : Json} (h : Value s v rest) :
    ∃ c s', skipBlanks s = c :: s' ∧ c ≠ ']' := by
  cases h with
  | number t h =>
    rw [h]
    rcases t.exists_chars rest with ⟨-, hchars⟩ | ⟨-, hchars, c, s', hunsigned, hc⟩
    · exact ⟨_, _, hchars, by decide⟩
    · exact ⟨c, s', by rw [hchars, hunsigned], ne_of_isDigit hc (by decide)⟩
  | null h => exact ⟨_, _, h, by decide⟩
  | true h => exact ⟨_, _, h, by decide⟩
  | false h => exact ⟨_, _, h, by decide⟩
  | text h => exact ⟨_, _, h, by decide⟩
  | emptyArray h => exact ⟨_, _, h, by decide⟩
  | array h => exact ⟨_, _, h, by decide⟩
  | emptyObject h => exact ⟨_, _, h, by decide⟩
  | object h => exact ⟨_, _, h, by decide⟩

theorem begin_of_member {s rest : List Char} {m : String × Json} (h : Member s m rest) :
    ∃ s', skipBlanks s = '"' :: s' := by
  cases h with
  | mk hquote => exact ⟨_, hquote⟩

theorem colon_eq {s s₁ : List Char} (h : skipBlanks s = ':' :: s₁) : colon s = .ok ((), s₁) := by
  rw [colon, h]
  rfl

theorem nextItem_close {s rest : List Char} (h : skipBlanks s = ']' :: rest) : nextItem s = .ok (false, rest) := by
  rw [nextItem, h]
  rfl

theorem nextItem_comma {s s₁ rest : List Char} {v : Json} (h : skipBlanks s = ',' :: s₁) (hv : Value s₁ v rest) :
    nextItem s = .ok (true, skipBlanks s₁) := by
  obtain ⟨c, s', hbegin, hc⟩ := begin_of_value hv
  rw [nextItem, h]
  simp only [hbegin]
  split
  · next heq => cases heq
  · next heq => exact absurd (List.cons.inj heq).1 hc
  · rfl

theorem nextMember_close {s rest : List Char} (h : skipBlanks s = '\x7d' :: rest) : nextMember s = .ok (false, rest) := by
  rw [nextMember, h]
  rfl

theorem nextMember_comma {s s₁ rest : List Char} {m : String × Json} (h : skipBlanks s = ',' :: s₁)
    (hm : Member s₁ m rest) : nextMember s = .ok (true, skipBlanks s₁) := by
  obtain ⟨s', hquote⟩ := begin_of_member hm
  rw [nextMember, h]
  simp only [hquote]
  split
  · next heq => cases heq
  · next heq => cases heq
  · rfl

/-! ## Length -/

theorem Chars.length_lt {s cs rest : List Char} (h : Chars s cs rest) : rest.length < s.length := by
  induction h with
  | close => exact Nat.lt_succ_self _
  | plain _ _ _ _ ih => exact ih.trans (Nat.lt_succ_self _)
  | letter _ _ ih =>
    simp only [List.length_cons]
    omega
  | unit _ _ _ _ ih =>
    simp only [List.length_cons, List.length_append]
    omega
  | pair _ _ _ _ _ _ _ ih =>
    simp only [List.length_cons, List.length_append]
    omega

theorem length_of_skipBlanks_append {s cs rest : List Char} (h : skipBlanks s = cs ++ rest) : rest.length ≤ s.length := by
  have hle := length_skipBlanks_le s
  rw [h, List.length_append] at hle
  omega

theorem depth_of_isScalar {v : Json} (h : v.isScalar = true) : v.depth = 0 := by
  cases v <;> first | rfl | cases h

mutual

/-- for every bracket that is open at once there is a character, besides what is left of the text -/
theorem Value.depth_le {s rest : List Char} {v : Json} : Value s v rest → v.depth + rest.length ≤ s.length
  | .null h => by
    have hlen := length_of_skipBlanks h
    simp only [Json.depth, List.length_cons] at hlen ⊢
    omega
  | .true h => by
    have hlen := length_of_skipBlanks h
    simp only [Json.depth, List.length_cons] at hlen ⊢
    omega
  | .false h => by
    have hlen := length_of_skipBlanks h
    simp only [Json.depth, List.length_cons] at hlen ⊢
    omega
  | .number t h hv _ => by
    have hlen := length_of_skipBlanks_append h
    have hscalar := depth_of_isScalar (t.isScalar_of_value? hv)
    omega
  | .text h hcs => by
    have hlen := length_of_skipBlanks h
    have hshorter := hcs.length_lt
    simp only [Json.depth]
    omega
  | .emptyArray h hclose => by
    have hlen := length_of_skipBlanks h
    have hshorter := length_of_skipBlanks hclose
    simp only [Json.depth, depthItems]
    omega
  | .array h hx hxs => by
    have hlen := length_of_skipBlanks h
    have hfirst := hx.depth_le
    have hothers := hxs.depth_le
    simp only [Json.depth, depthItems]
    omega
  | .emptyObject h hclose => by
    have hlen := length_of_skipBlanks h
    have hshorter := length_of_skipBlanks hclose
    simp only [Json.depth, depthMembers]
    omega
  | .object h hm hms => by
    have hlen := length_of_skipBlanks h
    have hfirst := hm.depth_le
    have hothers := hms.depth_le
    simp only [Json.depth, depthMembers]
    omega

theorem Items.depth_le {s rest : List Char} {xs : List Json} : Items s xs rest → depthItems xs + rest.length ≤ s.length
  | .close h => by
    have hlen := length_of_skipBlanks h
    simp only [depthItems]
    omega
  | .next h hx hxs => by
    have hlen := length_of_skipBlanks h
    have hfirst := hx.depth_le
    have hothers := hxs.depth_le
    simp only [depthItems]
    omega

theorem Member.depth_le {s rest : List Char} {m : String × Json} : Member s m rest → m.2.depth + rest.length ≤ s.length
  | .mk hquote hname hcolon hv => by
    have hquoted := length_of_skipBlanks hquote
    have hnamed := hname.length_lt
    have hcoloned := length_of_skipBlanks hcolon
    have hvalue := hv.depth_le
    dsimp only
    omega

theorem MoreMembers.depth_le {s rest : List Char} {ms : List (String × Json)} :
    MoreMembers s ms rest → depthMembers ms + rest.length ≤ s.length
  | .close h => by
    have hlen := length_of_skipBlanks h
    simp only [depthMembers]
    omega
  | .next h hm hms => by
    have hlen := length_of_skipBlanks h
    have hfirst := hm.depth_le
    have hothers := hms.depth_le
    simp only [depthMembers]
    omega

end

/-! ## Values -/

/-- the value stands for itself: no name comes twice, and it does not begin with the reserved name -/
def isVerbatim (j : Json) : Bool := j.hasDistinctNames && j.isPlain

theorem isVerbatim_object {m : String × Json} {ms : List (String × Json)} :
    isVerbatim (.object (m :: ms)) = true ↔ (Members.names (m :: ms)).Nodup ∧ m.1 ≠ embeddedName := by
  rw [isVerbatim, Bool.and_eq_true]
  exact and_congr decide_eq_true_iff bne_iff_ne

theorem value_skipBlanks (keep : Bool) (steps depth : Nat) (s : List Char) :
    value keep steps depth (skipBlanks s) = value keep steps depth s := by
  cases steps with
  | zero => rfl
  | succ steps => rw [value, value, head_skipBlanks]

/-- there is a step for a character that is not blank -/
theorem exists_succ {s s' : List Char} {c : Char} {n : Nat} (h : skipBlanks s = c :: s') (hn : s.length ≤ n) :
    ∃ k, n = k + 1 ∧ s'.length ≤ k := by
  have hlen := length_of_skipBlanks h
  exact ⟨n - 1, by omega, by omega⟩

section

variable {keep : Bool} {steps depth : Nat} {s s₁ s₂ rest : List Char}

theorem value_of_scalar {v : Json} (h : head keep (steps + 1) s = .ok (.scalar v, rest)) :
    value keep (steps + 1) depth s = .ok (v, rest) := by
  rw [value, h]
  rfl

theorem scalar_takes {v : Json} (h : Value s v rest) (hv : v.isScalar = true) (hsteps : s.length ≤ steps) :
    Takes keep (value keep steps depth s) v rest := by
  obtain ⟨c, s', hbegin, -⟩ := begin_of_value h
  obtain ⟨v', hhead, hkeep⟩ := head_of_scalar keep h hv hsteps
  obtain ⟨steps, rfl, -⟩ := exists_succ hbegin hsteps
  exact ⟨v', value_of_scalar hhead, hkeep⟩

/-- an array of one item and more -/
theorem value_of_array {x x' : Json} {xs' : List Json} (h : skipBlanks s = '[' :: s₁) (hx : Value s₁ x s₂)
    (hread : value keep steps depth s₁ = .ok (x', s₂)) (hxs : items keep steps depth s₂ = .ok (xs', rest)) :
    value keep (steps + 1) (depth + 1) s = .ok (.array (x' :: xs'), rest) := by
  obtain ⟨c, s', hbegin, hc⟩ := begin_of_value hx
  rw [← value_skipBlanks, hbegin] at hread
  rw [value, head_bracket h]
  simp only [bind, Except.bind, hbegin]
  split
  · next heq => cases heq
  · next heq _ => cases heq
  · next heq _ => exact absurd (List.cons.inj heq).1 hc
  · next heq _ _ =>
    obtain rfl := Nat.succ.inj heq
    rw [hread]
    simp only [hxs]
    rfl

/-- an object of one member and more, the first of which does not have the reserved name, if it is to be kept -/
theorem value_of_object {s₃ s₄ : List Char} {m m' : String × Json} {ms' : List (String × Json)}
    (h : skipBlanks s = '\x7b' :: s₁) (hm : Member s₁ m s₄) (hname : memberName keep steps (skipBlanks s₁) = .ok (m'.1, s₂))
    (hplain : (keep && m'.1 == embeddedName) = false) (hcolon : colon s₂ = .ok ((), s₃))
    (hv : value keep steps depth s₃ = .ok (m'.2, s₄)) (hms : members keep steps depth s₄ = .ok (ms', rest)) :
    value keep (steps + 1) (depth + 1) s = .ok (.object (Members.ofPairs (m' :: ms')), rest) := by
  obtain ⟨s', hquote⟩ := begin_of_member hm
  rw [hquote] at hname
  rw [value, head_brace h]
  simp only [bind, Except.bind, hquote]
  split
  · next heq => cases heq
  · next heq _ => cases heq
  · next heq _ => cases heq
  · next heq _ _ =>
    obtain rfl := Nat.succ.inj heq
    simp only [hname, hcolon, hplain, Bool.false_eq_true, if_false, hv, hms]
    rfl

end

mutual

/-- **Values.** A value is read if there are as many steps as characters and as many brackets may be open at once as it
has, and it is kept as it is if it stands for itself. -/
theorem value_takes (keep : Bool) (steps depth : Nat) {s rest : List Char} {v : Json} : Value s v rest →
    s.length ≤ steps → v.depth ≤ depth → (keep = true → v.all isVerbatim = true) →
    Takes keep (value keep steps depth s) v rest
  | .null h, hsteps, _, _ => scalar_takes (.null h) rfl hsteps
  | .true h, hsteps, _, _ => scalar_takes (.true h) rfl hsteps
  | .false h, hsteps, _, _ => scalar_takes (.false h) rfl hsteps
  | .number t h hv hstops, hsteps, _, _ => scalar_takes (.number t h hv hstops) (t.isScalar_of_value? hv) hsteps
  | .text h hcs, hsteps, _, _ => scalar_takes (.text h hcs) rfl hsteps
  | .emptyArray h hclose, hsteps, hdepth, _ => by
    obtain ⟨steps, rfl, -⟩ := exists_succ h hsteps
    obtain ⟨depth, rfl⟩ := Nat.exists_eq_add_of_lt hdepth
    exact ⟨.array [], by rw [value, head_bracket h]; simp only [bind, Except.bind, hclose]; rfl, fun _ => rfl⟩
  | .array h hx hxs, hsteps, hdepth, hkeep => by
    simp only [Json.depth, depthItems] at hdepth
    simp only [all, allItems, Bool.and_eq_true] at hkeep
    obtain ⟨steps, rfl, hfits⟩ := exists_succ h hsteps
    obtain ⟨depth, rfl⟩ : ∃ d, depth = d + 1 := ⟨depth - 1, by omega⟩
    have hshorter := hx.depth_le
    obtain ⟨x', hread, hx'⟩ := value_takes keep steps depth hx hfits (by omega) fun hk => (hkeep hk).2.1
    obtain ⟨xs', hothers, hxs'⟩ := items_take keep steps depth hxs (by omega) (by omega) fun hk => (hkeep hk).2.2
    exact ⟨_, value_of_array h hx hread hothers, fun hk => by rw [hx' hk, hxs' hk]⟩
  | .emptyObject h hclose, hsteps, hdepth, _ => by
    obtain ⟨steps, rfl, -⟩ := exists_succ h hsteps
    obtain ⟨depth, rfl⟩ := Nat.exists_eq_add_of_lt hdepth
    exact ⟨.object [], by rw [value, head_brace h]; simp only [bind, Except.bind, hclose]; rfl, fun _ => rfl⟩
  | .object h hm hms, hsteps, hdepth, hkeep => by
    simp only [Json.depth, depthMembers] at hdepth
    simp only [all, allMembers, Bool.and_eq_true] at hkeep
    obtain ⟨steps, rfl, hfits⟩ := exists_succ h hsteps
    obtain ⟨depth, rfl⟩ : ∃ d, depth = d + 1 := ⟨depth - 1, by omega⟩
    have hshorter := hm.depth_le
    obtain ⟨m', s₁, s₂, hname, hcolon, hread, hm'⟩ :=
      member_takes keep steps depth hm hfits (by omega) fun hk => (hkeep hk).2.1
    obtain ⟨ms', hothers, hms'⟩ := members_take keep steps depth hms (by omega) (by omega) fun hk => (hkeep hk).2.2
    have hplain : (keep && m'.1 == embeddedName) = false := by
      refine Bool.eq_false_of_not_eq_true fun hboth => ?_
      obtain ⟨hk, hname⟩ := Bool.and_eq_true_iff.1 hboth
      rw [hm' hk] at hname
      exact (isVerbatim_object.1 (hkeep hk).1).2 (eq_of_beq hname)
    refine ⟨_, value_of_object h hm hname hplain hcolon hread hothers, fun hk => ?_⟩
    rw [hm' hk, hms' hk, Members.ofPairs_of_nodup (isVerbatim_object.1 (hkeep hk).1).1]

/-- and so are the items behind the first one of an array -/
theorem items_take (keep : Bool) (steps depth : Nat) {s rest : List Char} {xs : List Json} : Items s xs rest →
    s.length ≤ steps → depthItems xs ≤ depth → (keep = true → allItems isVerbatim xs = true) →
    Takes keep (items keep steps depth s) xs rest
  | .close h, hsteps, _, _ => by
    obtain ⟨steps, rfl, -⟩ := exists_succ h hsteps
    exact ⟨[], by rw [items, nextItem_close h]; rfl, fun _ => rfl⟩
  | .next h hx hxs, hsteps, hdepth, hkeep => by
    simp only [depthItems] at hdepth
    simp only [allItems, Bool.and_eq_true] at hkeep
    obtain ⟨steps, rfl, hfits⟩ := exists_succ h hsteps
    have hshorter := hx.depth_le
    obtain ⟨x', hread, hx'⟩ := value_takes keep steps depth hx hfits (by omega) fun hk => (hkeep hk).1
    obtain ⟨xs', hothers, hxs'⟩ := items_take keep steps depth hxs (by omega) (by omega) fun hk => (hkeep hk).2
    rw [← value_skipBlanks] at hread
    refine ⟨x' :: xs', ?_, fun hk => by rw [hx' hk, hxs' hk]⟩
    rw [items, nextItem_comma h hx]
    simp only [bind, Except.bind, hread, hothers]
    rfl

/-- one member: its name, the colon and its value -/
theorem member_takes (keep : Bool) (steps depth : Nat) {s rest : List Char} {m : String × Json} : Member s m rest →
    s.length ≤ steps → m.2.depth ≤ depth → (keep = true → m.2.all isVerbatim = true) →
    ∃ m' s₁ s₂, memberName keep steps (skipBlanks s) = .ok (m'.1, s₁) ∧ colon s₁ = .ok ((), s₂) ∧
      value keep steps depth s₂ = .ok (m'.2, rest) ∧ (keep = true → m' = m)
  | .mk hquote hname hcolon hv, hsteps, hdepth, hkeep => by
    have hquoted := length_of_skipBlanks hquote
    have hnamed := hname.length_lt
    have hcoloned := length_of_skipBlanks hcolon
    obtain ⟨cs', hstring, hcs⟩ := stringBody_takes keep hname steps (by omega)
    obtain ⟨v', hread, hv'⟩ := value_takes keep steps depth hv (by omega) hdepth hkeep
    refine ⟨(String.ofList cs', v'), _, _, ?_, colon_eq hcolon, hread, fun hk => by rw [hcs hk, hv' hk]⟩
    rw [hquote, memberName, hstring]
    rfl

/-- and the members behind the first one of an object -/
theorem members_take (keep : Bool) (steps depth : Nat) {s rest : List Char} {ms : List (String × Json)} :
    MoreMembers s ms rest → s.length ≤ steps → depthMembers ms ≤ depth →
    (keep = true → allMembers isVerbatim ms = true) → Takes keep (members keep steps depth s) ms rest
  | .close h, hsteps, _, _ => by
    obtain ⟨steps, rfl, -⟩ := exists_succ h hsteps
    exact ⟨[], by rw [members, nextMember_close h]; rfl, fun _ => rfl⟩
  | .next h hm hms, hsteps, hdepth, hkeep => by
    simp only [depthMembers] at hdepth
    simp only [allMembers, Bool.and_eq_true] at hkeep
    obtain ⟨steps, rfl, hfits⟩ := exists_succ h hsteps
    have hshorter := hm.depth_le
    obtain ⟨m', s₁, s₂, hname, hcolon, hread, hm'⟩ :=
      member_takes keep steps depth hm hfits (by omega) fun hk => (hkeep hk).1
    obtain ⟨ms', hothers, hms'⟩ := members_take keep steps depth hms (by omega) (by omega) fun hk => (hkeep hk).2
    refine ⟨m' :: ms', ?_, fun hk => by rw [hm' hk, hms' hk]⟩
    rw [members, nextMember_comma h hm]
    simp only [bind, Except.bind, hname, hcolon, hread, hothers]
    rfl

end

end FluentSql.Json.Spelling
