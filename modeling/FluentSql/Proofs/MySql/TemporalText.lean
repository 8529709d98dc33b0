/-
The texts of dates and of times of day.

Digits of any number end at the next sign, colon or point, and of years only those of more than four digits have a sign.
A fraction has no fixed length, but its length tells the unit that its digits count.
- `Date.text_injective`: the text of a date determines it.
- `TimeOfDay.text_injective`: so does that of a time of day.
-/
import FluentSql.MySql.Temporal
import FluentSql.Proofs.Json.Scalars
import FluentSql.Proofs.Text.Pieces

namespace FluentSql.MySql

open FluentSql.Text

/-! ## Digits -/

theorem toList_padded (width n : Nat) :
    (padded width n).toList = List.replicate (width - (Nat.toDigits 10 n).length) '0' ++ Nat.toDigits 10 n :=
  String.toList_ofList

theorem isDigit_of_mem_padded {width n : Nat} {c : Char} (h : c ∈ (padded width n).toList) : c.isDigit = true := by
  rw [toList_padded, List.mem_append] at h
  rcases h with hzero | hdigit
  · rw [List.eq_of_mem_replicate hzero]
    rfl
  · exact Json.Parser.isDigit_of_mem hdigit

theorem not_mem_padded {d : Char} (hd : d.isDigit = false) (width n : Nat) : d ∉ (padded width n).toList :=
  fun h => Json.Parser.ne_of_isDigit (isDigit_of_mem_padded h) hd rfl

/-- digits are read back, zeros in front or not -/
theorem ofDigitChars_padded (width n : Nat) : Nat.ofDigitChars 10 (padded width n).toList 0 = n := by
  rw [toList_padded, Nat.ofDigitChars_append, Nat.ofDigitChars_replicate_zero, Nat.mul_zero, Nat.ofDigitChars_ten_toDigits]

theorem padded_injective {width width' m n : Nat} (h : (padded width m).toList = (padded width' n).toList) : m = n :=
  calc
    m = Nat.ofDigitChars 10 (padded width m).toList 0 := (ofDigitChars_padded width m).symm
    _ = Nat.ofDigitChars 10 (padded width' n).toList 0 := by rw [h]
    _ = n := ofDigitChars_padded width' n

theorem length_padded {width n : Nat} (hwidth : 0 < width) (hn : n < 10 ^ width) :
    (padded width n).toList.length = width := by
  have hdigits := (Nat.length_toDigits_le_iff (b := 10) (by decide) hwidth).2 hn
  rw [toList_padded, List.length_append, List.length_replicate]
  omega

/-! ## Dates -/

namespace Date

/-- the characters of a year -/
def yearChars (year : Nat) : List Char := (if 9999 < year then ['+'] else []) ++ (padded 4 year).toList

theorem mem_yearChars {c : Char} {year : Nat} (h : c ∈ yearChars year) : c.isDigit = true ∨ c = '+' := by
  rw [yearChars, List.mem_append] at h
  rcases h with hsign | hdigit
  · split_ifs at hsign
    · exact .inr (List.mem_singleton.1 hsign)
    · cases hsign
  · exact .inl (isDigit_of_mem_padded hdigit)

theorem yearChars_injective {y y' : Nat} (h : yearChars y = yearChars y') : y = y' := by
  have hsign (year : Nat) : '+' ∈ yearChars year ↔ 9999 < year := by
    rw [yearChars, List.mem_append, or_iff_left (not_mem_padded (by decide) _ _)]
    split_ifs with hlarge <;> simp [hlarge]
  have hlarge : 9999 < y ↔ 9999 < y' := by rw [← hsign, ← hsign, h]
  rw [yearChars, yearChars, if_congr hlarge rfl rfl, List.append_cancel_left_eq] at h
  exact padded_injective h

theorem toList_text (d : Date) : d.text.toList = yearChars d.year ++
    '-' :: ((padded 2 d.month).toList ++ '-' :: (padded 2 d.day).toList) := by
  have hsign : (if 9999 < d.year then "+" else "").toList = if 9999 < d.year then ['+'] else [] := by
    split_ifs <;> rfl
  simp [text, yearChars, hsign]

theorem mem_text {d : Date} {c : Char} (h : c ∈ d.text.toList) : c.isDigit = true ∨ c = '+' ∨ c = '-' := by
  rw [toList_text, List.mem_append, List.mem_cons, List.mem_append, List.mem_cons] at h
  obtain hyear | rfl | hmonth | rfl | hday := h
  · exact (mem_yearChars hyear).imp_right .inl
  · exact .inr (.inr rfl)
  · exact .inl (isDigit_of_mem_padded hmonth)
  · exact .inr (.inr rfl)
  · exact .inl (isDigit_of_mem_padded hday)

theorem text_injective {d d' : Date} (h : d.text = d'.text) : d = d' := by
  have hyear (y : Nat) : '-' ∉ yearChars y := fun hmem => absurd (mem_yearChars hmem) (by decide)
  have hdash : ('-' : Char).isDigit = false := by decide
  have hchars := congrArg String.toList h
  rw [toList_text, toList_text] at hchars
  obtain ⟨hy, hrest⟩ := eq_of_append_cons_eq (hyear _) (hyear _) hchars
  obtain ⟨hm, hd⟩ := eq_of_append_cons_eq (not_mem_padded hdash _ _) (not_mem_padded hdash _ _) hrest
  cases d
  cases d'
  rw [mk.injEq]
  exact ⟨yearChars_injective hy, padded_injective hm, padded_injective hd⟩

end Date

/-! ## Times of day -/

namespace TimeOfDay

theorem endsAt_fractionText (micros : Nat) : EndsAt '.' (fractionText micros).toList := by
  unfold fractionText
  split_ifs
  · exact fun _ hc => nomatch hc
  all_goals
    rw [String.toList_append]
    exact endsAt_cons '.' _

/-- a fraction is read back: its length tells the unit that its digits count -/
theorem ofDigitChars_fractionText {micros : Nat} (h : micros < 1000000) :
    Nat.ofDigitChars 10 (fractionText micros).toList.tail 0 * 10 ^ (7 - (fractionText micros).toList.length) =
      micros := by
  have hpoint (s : String) : ("." ++ s).toList = '.' :: s.toList := by simp
  unfold fractionText
  split_ifs with hzero hmillis
  · exact hzero.symm
  · have hlength : (padded 3 (micros / 1000)).toList.length = 3 := length_padded (by decide) (by omega)
    rw [hpoint, List.tail_cons, List.length_cons, hlength, ofDigitChars_padded]
    omega
  · have hlength : (padded 6 micros).toList.length = 6 := length_padded (by decide) h
    rw [hpoint, List.tail_cons, List.length_cons, hlength, ofDigitChars_padded]
    omega

theorem fractionText_injective {m n : Nat} (hm : m < 1000000) (hn : n < 1000000)
    (h : (fractionText m).toList = (fractionText n).toList) : m = n := by
  rw [← ofDigitChars_fractionText hm, h, ofDigitChars_fractionText hn]

theorem toList_text (t : TimeOfDay) : t.text.toList = (padded 2 t.hour).toList ++
    ':' :: ((padded 2 t.minute).toList ++ ':' :: ((padded 2 (t.second + t.micros / 1000000)).toList ++
      (fractionText (t.micros % 1000000)).toList)) := by
  simp [text]

theorem text_injective {t t' : TimeOfDay} (ht : t.isValid = true) (ht' : t'.isValid = true) (h : t.text = t'.text) :
    t = t' := by
  have hcolon : (':' : Char).isDigit = false := by decide
  have hpoint : ('.' : Char).isDigit = false := by decide
  have hchars := congrArg String.toList h
  rw [toList_text, toList_text] at hchars
  obtain ⟨hhour, hrest⟩ := eq_of_append_cons_eq (not_mem_padded hcolon _ _) (not_mem_padded hcolon _ _) hchars
  obtain ⟨hminute, hrest⟩ := eq_of_append_cons_eq (not_mem_padded hcolon _ _) (not_mem_padded hcolon _ _) hrest
  obtain ⟨hsecond, hfraction⟩ := eq_of_append_eq (not_mem_padded hpoint _ _) (not_mem_padded hpoint _ _)
    (endsAt_fractionText _) (endsAt_fractionText _) hrest
  have hseconds := padded_injective hsecond
  have hmicros := fractionText_injective (Nat.mod_lt _ (by decide)) (Nat.mod_lt _ (by decide)) hfraction
  cases t
  cases t'
  simp only [isValid, Bool.and_eq_true, Bool.or_eq_true, decide_eq_true_eq, beq_iff_eq] at ht ht'
  simp only [mk.injEq] at *
  refine ⟨padded_injective hhour, padded_injective hminute, ?_, ?_⟩ <;> omega

end TimeOfDay

end FluentSql.MySql
