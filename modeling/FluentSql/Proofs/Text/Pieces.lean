/-
Pieces of a text, and where they end.

A piece is known in front of whatever follows it if a character ends it that is not in it, or the end of the text does
(`EndsAt`).
- `eq_of_append_eq`: the same text, cut where such a character comes first, is cut into the same pieces.
- `Known.intercalate_eq_iff`: items that are known in front of a comma and of the end are known in a list of them.
-/
import Mathlib.Data.List.Forall2

namespace FluentSql.Text

/-! ## One piece -/

/-- the text ends, or the character comes -/
def EndsAt (d : Char) (rest : List Char) : Prop := ∀ c ∈ rest.head?, c = d

theorem endsAt_cons (d : Char) (rest : List Char) : EndsAt d (d :: rest) := fun _ hc => (Option.some.inj hc).symm

theorem EndsAt.eq_of_append {d c : Char} {xs rest rest' : List Char} (hrest : EndsAt d rest)
    (h : rest = c :: (xs ++ rest')) : c = d :=
  hrest c (by rw [h]; rfl)

theorem eq_of_append_eq {d : Char} {xs ys rest rest' : List Char} (hx : d ∉ xs) (hy : d ∉ ys) (hrest : EndsAt d rest)
    (hrest' : EndsAt d rest') (h : xs ++ rest = ys ++ rest') : xs = ys ∧ rest = rest' := by
  induction xs generalizing ys with
  | nil =>
    cases ys with
    | nil => exact ⟨rfl, h⟩
    | cons y ys => exact absurd (hrest.eq_of_append h) (List.ne_of_not_mem_cons hy).symm
  | cons x xs ih =>
    cases ys with
    | nil => exact absurd (hrest'.eq_of_append h.symm) (List.ne_of_not_mem_cons hx).symm
    | cons y ys =>
      obtain ⟨rfl, htail⟩ := List.cons.inj h
      obtain ⟨rfl, hrests⟩ := ih (List.not_mem_of_not_mem_cons hx) (List.not_mem_of_not_mem_cons hy) htail
      exact ⟨rfl, hrests⟩

/-- the character itself comes -/
theorem eq_of_append_cons_eq {d : Char} {xs ys rest rest' : List Char} (hx : d ∉ xs) (hy : d ∉ ys)
    (h : xs ++ d :: rest = ys ++ d :: rest') : xs = ys ∧ rest = rest' := by
  obtain ⟨hpieces, hrests⟩ := eq_of_append_eq hx hy (endsAt_cons d rest) (endsAt_cons d rest') h
  exact ⟨hpieces, (List.cons.inj hrests).2⟩

/-! ## Lists of items -/

variable {α : Type}

/-- what stands behind the first item of a list: each further item, with a comma and a space in front of it -/
def furtherItems (text : α → String) (as : List α) : List Char := as.flatMap fun a => ',' :: ' ' :: (text a).toList

theorem furtherItems_cons (text : α → String) (a : α) (as : List α) :
    furtherItems text (a :: as) = ',' :: ' ' :: ((text a).toList ++ furtherItems text as) := rfl

theorem endsAt_furtherItems (text : α → String) (as : List α) : EndsAt ',' (furtherItems text as) := by
  cases as with
  | nil => exact fun _ hc => nomatch hc
  | cons a as => exact endsAt_cons ',' _

theorem toList_intercalate_cons (text : α → String) (a : α) (as : List α) :
    (", ".intercalate ((a :: as).map text)).toList = (text a).toList ++ furtherItems text as := by
  induction as generalizing a with
  | nil => simp [furtherItems]
  | cons b as ih =>
    have hsep : (", " : String).toList = [',', ' '] := rfl
    rw [List.map_cons, List.map_cons, String.intercalate_cons_cons, String.toList_append, String.toList_append, hsep,
      ← List.map_cons, ih, furtherItems_cons, List.append_assoc]
    rfl

/-- items of which the text, in front of a comma and of the end, is taken for that of a related item only -/
structure Known (text : α → String) (good : α → Prop) (related : α → α → Prop) : Prop where
  ne_empty : ∀ a, good a → text a ≠ ""
  alike : ∀ a b, related a b → text a = text b
  cut : ∀ a b rest rest', good a → good b → EndsAt ',' rest → EndsAt ',' rest' →
    (text a).toList ++ rest = (text b).toList ++ rest' → related a b ∧ rest = rest'

namespace Known

variable {text : α → String} {good : α → Prop} {related : α → α → Prop} (hknown : Known text good related)
include hknown

theorem map_eq_of_forall₂ {as bs : List α} (h : List.Forall₂ related as bs) : as.map text = bs.map text := by
  induction h with
  | nil => rfl
  | cons hab _ ih => rw [List.map_cons, List.map_cons, hknown.alike _ _ hab, ih]

theorem forall₂_of_furtherItems_eq {as bs : List α} (has : ∀ a ∈ as, good a) (hbs : ∀ b ∈ bs, good b)
    (h : furtherItems text as = furtherItems text bs) : List.Forall₂ related as bs := by
  induction as generalizing bs with
  | nil =>
    cases bs with
    | nil => exact .nil
    | cons b bs => cases h
  | cons a as ih =>
    cases bs with
    | nil => cases h
    | cons b bs =>
      rw [List.forall_mem_cons] at has hbs
      rw [furtherItems_cons, furtherItems_cons, List.cons.injEq, List.cons.injEq] at h
      obtain ⟨hab, hrest⟩ := hknown.cut a b _ _ has.1 hbs.1 (endsAt_furtherItems text as) (endsAt_furtherItems text bs)
        h.2.2
      exact .cons hab (ih has.2 hbs.2 hrest)

theorem eq_nil_of_intercalate_eq_empty {as : List α} (has : ∀ a ∈ as, good a)
    (h : ", ".intercalate (as.map text) = "") : as = [] := by
  cases as with
  | nil => rfl
  | cons a as =>
    have hchars := toList_intercalate_cons text a as
    rw [h] at hchars
    have hfirst : (text a).toList = [] := (List.append_eq_nil_iff.1 hchars.symm).1
    exact absurd (String.toList_eq_nil_iff.1 hfirst) (hknown.ne_empty a (has a List.mem_cons_self))

/-- **Lists.** The text of a list determines how many items it has and, one by one, to which they are related. -/
theorem intercalate_eq_iff {as bs : List α} (has : ∀ a ∈ as, good a) (hbs : ∀ b ∈ bs, good b) :
    ", ".intercalate (as.map text) = ", ".intercalate (bs.map text) ↔ List.Forall₂ related as bs := by
  constructor
  · intro h
    cases as with
    | nil =>
      obtain rfl := hknown.eq_nil_of_intercalate_eq_empty hbs h.symm
      exact .nil
    | cons a as =>
      cases bs with
      | nil => cases hknown.eq_nil_of_intercalate_eq_empty has h
      | cons b bs =>
        -- a comma and a space in front make the first items further ones
        apply hknown.forall₂_of_furtherItems_eq has hbs
        rw [furtherItems_cons, furtherItems_cons, ← toList_intercalate_cons, ← toList_intercalate_cons, h]
  · intro h
    rw [hknown.map_eq_of_forall₂ h]

end Known

end FluentSql.Text
