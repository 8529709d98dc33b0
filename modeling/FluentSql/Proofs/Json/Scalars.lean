/-
Parts of scalars, as they are read off the front of a text: escapes of four digits, digits before and behind the point, and
integers by their digits. What follows a scalar does not count, except that it must not go on with a number (`Stops`).
-/
import FluentSql.Json.Parser
import FluentSql.Json.Printer
import Mathlib.Tactic

namespace FluentSql.Json.Parser

open FluentSql.Text

/-! ## Blanks -/

theorem skipBlanks_cons {c : Char} (h : isBlank c = false) (s : List Char) : skipBlanks (c :: s) = c :: s := by
  rw [skipBlanks, List.dropWhile_cons_of_neg (by rw [h]; decide)]

/-! ## Strings -/

theorem value?_digitChar : ∀ d < 16, Hex.value? (Nat.digitChar d) = some d := by decide

/-- four digits -/
theorem unit_append {ds : List Char} {n : Nat} (hds : ds.length = 4) (hn : Hex.number? ds = some n) (s : List Char) :
    unit (ds ++ s) = .ok (n, s) := by
  have hbytes (cs : List Char) : cs.length ≤ byteLength cs := by
    induction cs with
    | nil => exact Nat.le_refl 0
    | cons c cs ih =>
      have hpos := c.utf8Size_pos
      rw [List.length_cons, byteLength]
      omega
  have hlong := hbytes ds
  have htake : (ds ++ s).take 4 = ds := by rw [← hds, List.take_left]
  have hdrop : (ds ++ s).drop 4 = s := by rw [← hds, List.drop_left]
  rw [unit, htake, if_neg (by omega), hn, hdrop]

/-- a control character is escaped by its number in four digits -/
theorem number?_digitChars {n : Nat} (h : n < 0x20) :
    Hex.number? ['0', '0', Nat.digitChar (n / 16), Nat.digitChar (n % 16)] = some n := by
  have hzero : Hex.value? '0' = some 0 := by decide
  simp only [Hex.number?, List.foldl_cons, List.foldl_nil, Option.bind_some, hzero,
    value?_digitChar (n / 16) (by omega), value?_digitChar (n % 16) (by omega), Option.map_some, Option.some.injEq]
  omega

/-! ## Numbers -/

/-- the text does not go on with a number -/
def Stops : List Char → Prop
  | [] => True
  | c :: _ => c.isDigit = false ∧ c ≠ '.' ∧ c ≠ 'e' ∧ c ≠ 'E'

/-- no digit comes next -/
def NoDigit (s : List Char) : Prop := ∀ c ∈ s.head?, c.isDigit = false

theorem Stops.noDigit {rest : List Char} (h : Stops rest) : NoDigit rest := by
  cases rest with
  | nil => exact fun c hc => nomatch hc
  | cons c rest => exact fun d hd => Option.some.inj hd ▸ h.1

section

variable {ds s : List Char} (hs : NoDigit s) (hds : ∀ d ∈ ds, d.isDigit = true)
include hs hds

theorem takeWhile_digits : (ds ++ s).takeWhile Char.isDigit = ds := by
  rw [List.takeWhile_append_of_pos hds]
  cases s with
  | nil => exact List.append_nil ds
  | cons c s => rw [List.takeWhile_cons_of_neg (by rw [hs c rfl]; decide), List.append_nil]

theorem dropWhile_digits : (ds ++ s).dropWhile Char.isDigit = s := by
  rw [List.dropWhile_append_of_pos hds]
  cases s with
  | nil => rfl
  | cons c s => rw [List.dropWhile_cons_of_neg (by rw [hs c rfl]; decide)]

end

/-- one digit and more -/
def IsDigits (ds : List Char) : Prop := ds ≠ [] ∧ ∀ d ∈ ds, d.isDigit = true

/-- digits before the point, without a zero in front -/
theorem wholePart_digits (keep : Bool) {ds s : List Char} (hds : IsDigits ds) (hzero : '0' ∈ ds.head? → ds = ['0'])
    (hs : NoDigit s) : wholePart keep (ds ++ s) = .ok (ds, s) := by
  obtain ⟨hne, hall⟩ := hds
  obtain ⟨c, cs, rfl⟩ := List.exists_cons_of_ne_nil hne
  rw [List.forall_mem_cons] at hall
  by_cases hc : c = '0'
  · subst hc
    rw [hzero rfl, List.singleton_append]
    cases s with
    | nil => rfl
    | cons d s => simp [wholePart, hs d rfl]
  · rw [List.cons_append, wholePart, if_pos hall.1, takeWhile_digits hs hall.2, dropWhile_digits hs hall.2]
    exact hc

theorem fractionPart_none (keep : Bool) {s : List Char} (hs : '.' ∉ s.head?) : fractionPart keep s = .ok (none, s) := by
  rw [fractionPart]
  rintro s' rfl
  exact hs rfl

theorem exponentPart_none (keep isZero : Bool) {rest : List Char} (h : Stops rest) :
    exponentPart keep isZero rest = .ok (none, rest) := by
  cases rest with
  | nil => rfl
  | cons c rest =>
    unfold exponentPart
    exact if_neg (not_or.2 ⟨h.2.2.1, h.2.2.2⟩)

theorem Stops.no_point {rest : List Char} (h : Stops rest) : '.' ∉ rest.head? := by
  cases rest with
  | nil => exact fun hc => nomatch hc
  | cons c rest => exact fun hc => h.2.1 (Option.some.inj hc)

/-- no number begins with a zero, except zero -/
theorem toDigits_head {n : Nat} (h : 0 < n) : ∃ c cs, Nat.toDigits 10 n = c :: cs ∧ c ≠ '0' := by
  induction n using Nat.strong_induction_on with
  | _ n ih =>
    rcases Nat.lt_or_ge n 10 with hsmall | hlarge
    · refine ⟨Nat.digitChar n, [], Nat.toDigits_of_lt_base hsmall, ?_⟩
      have hall : ∀ d < 10, 0 < d → Nat.digitChar d ≠ '0' := by decide
      exact hall n hsmall h
    · obtain ⟨c, cs, hcs, hc⟩ := ih (n / 10) (by omega) (by omega)
      exact ⟨c, cs ++ [Nat.digitChar (n % 10)], by rw [Nat.toDigits_of_base_le (by decide) hlarge, hcs]; rfl, hc⟩

theorem isDigit_of_mem {n : Nat} {c : Char} (h : c ∈ Nat.toDigits 10 n) : c.isDigit = true :=
  Nat.isDigit_of_mem_toDigits (by decide) (by decide) h

theorem isDigits_toDigits (n : Nat) : IsDigits (Nat.toDigits 10 n) :=
  ⟨Nat.toDigits_ne_nil, fun _ hd => isDigit_of_mem hd⟩

theorem toDigits_zero_head {n : Nat} (h : '0' ∈ (Nat.toDigits 10 n).head?) : Nat.toDigits 10 n = ['0'] := by
  rcases Nat.eq_zero_or_pos n with rfl | hpos
  · rfl
  · obtain ⟨c, cs, hcs, hc⟩ := toDigits_head hpos
    rw [hcs] at h
    exact absurd (Option.some.inj h) hc

theorem le_ofDigitChars (cs : List Char) (n : Nat) : n ≤ Nat.ofDigitChars 10 cs n := by
  induction cs generalizing n with
  | nil => exact Nat.le_refl n
  | cons c cs ih =>
    have h := ih (10 * n + (c.toNat - '0'.toNat))
    rw [Nat.ofDigitChars_cons]
    omega

/-- the digits of a number below the bound all fit -/
theorem absorb_eq {bound : Nat} (cs : List Char) (n : Nat) (h : Nat.ofDigitChars 10 cs n < bound) :
    absorb bound n cs = (Nat.ofDigitChars 10 cs n, []) := by
  induction cs generalizing n with
  | nil => rfl
  | cons c cs ih =>
    have hnext : n * 10 + (c.toNat - 48) = 10 * n + (c.toNat - '0'.toNat) := by
      rw [Nat.mul_comm]
      rfl
    rw [Nat.ofDigitChars_cons, ← hnext] at h ⊢
    have hfits : n * 10 + (c.toNat - 48) < bound := Nat.lt_of_le_of_lt (le_ofDigitChars cs _) h
    rw [absorb, if_pos hfits, ih _ h]

/-- the value of an integer by its digits -/
theorem numberValue?_toDigits {negative : Bool} {n : Nat} {k : WordInt} (hsign : negative = true → 0 < n)
    (hk : k.val = if negative then -(n : Int) else n) :
    numberValue? negative (Nat.toDigits 10 n) none none = some (.int k) := by
  have hlower := k.lower
  have hupper := k.upper
  have hbound : n < 0x10000000000000000 := by
    cases negative
    · rw [if_neg (by decide)] at hk; omega
    · rw [if_pos rfl] at hk; omega
  have habsorb : absorb 0x10000000000000000 0 (Nat.toDigits 10 n) = (n, []) := by
    have hn : Nat.ofDigitChars 10 (Nat.toDigits 10 n) 0 = n := Nat.ofDigitChars_ten_toDigits
    rw [absorb_eq _ _ (by rwa [hn]), hn]
  have hzero : (negative && n == 0) = false := by
    cases negative
    · rfl
    · have hpos := hsign rfl
      simp only [Bool.true_and, beq_eq_false_iff_ne]
      omega
  have hword : WordInt.ofInt? (if negative then -(n : Int) else n) = some k := by
    rw [← hk]
    exact dif_pos ⟨hlower, hupper⟩
  unfold numberValue?
  simp only [habsorb, Option.isSome_none, List.isEmpty_nil, Bool.not_true, Bool.false_or, hzero, hword]
  rfl

/-! ## Heads -/

theorem ne_of_isDigit {c d : Char} (hc : c.isDigit = true) (hd : d.isDigit = false) : c ≠ d := by
  rintro rfl
  rw [hd] at hc
  cases hc

theorem isBlank_of_isDigit {c : Char} (hc : c.isDigit = true) : isBlank c = false := by
  have hne (d : Char) (hd : d.isDigit = false) : c ≠ d := ne_of_isDigit hc hd
  simp [isBlank, hne ' ' (by decide), hne '\n' (by decide), hne '\t' (by decide), hne '\r' (by decide)]

theorem head_digit {keep : Bool} {c : Char} (hc : c.isDigit = true) (steps : Nat) (s : List Char) :
    head keep steps (c :: s) = (number keep false (c :: s)).map fun r => (.scalar r.1, r.2) := by
  rw [head, skipBlanks_cons (isBlank_of_isDigit hc)]
  split
  · next heq => cases heq
  -- a digit is none of the seven characters that begin another value
  iterate 7 next heq => exact absurd (List.cons.inj heq).1 (ne_of_isDigit hc (by decide))
  · next heq =>
    obtain ⟨rfl, rfl⟩ := List.cons.inj heq
    rw [if_pos hc]

theorem chars_ofNat (n : Nat) (hlower : -0x8000000000000000 ≤ Int.ofNat n) (hupper : Int.ofNat n < 0x10000000000000000) :
    chars (.int ⟨.ofNat n, hlower, hupper⟩) = Nat.toDigits 10 n := String.toList_ofList

theorem chars_negSucc (n : Nat) (hlower : -0x8000000000000000 ≤ Int.negSucc n)
    (hupper : Int.negSucc n < 0x10000000000000000) :
    chars (.int ⟨.negSucc n, hlower, hupper⟩) = '-' :: Nat.toDigits 10 (n + 1) := by
  have hrepr : (n + 1).repr.toList = Nat.toDigits 10 (n + 1) := String.toList_ofList
  rw [← hrepr]
  exact String.toList_append

end FluentSql.Json.Parser
