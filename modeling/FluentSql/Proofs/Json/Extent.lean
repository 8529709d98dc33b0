/-
No value is longer than the text it is read from.

A string takes its characters and a quotation mark, an array a character for each item and a bracket (`extent`). Every
reader leaves the text shorter by what it has read (`Within`). For values, items and members together this is an
induction on the steps of the reader; an embedded text is no longer than the string that holds it.
- `extent_le_of_parse`: a whole text.
-/
import FluentSql.Proofs.Json.Embedded
import Mathlib.Tactic

namespace FluentSql.Json

/-- characters that the text of a value has at least, as its outermost level tells -/
def extent : Json → Nat
  | .text t => t.length + 1
  | .array xs => xs.length + 1
  | _ => 1

theorem one_le_extent (j : Json) : 1 ≤ j.extent := by
  cases j <;> simp [extent]

namespace Parser

/-! ## What a reader takes -/

section

variable {α β : Type} {w w' : α → Nat} {v : β → Nat} {m n : Nat}

/-- if the reading succeeds, then `n` characters hold what was read, by its weight, and what is left -/
def Within (n : Nat) (w : α → Nat) (r : Except Failure (Reading α)) : Prop :=
  ∀ a rest, r = .ok (a, rest) → w a + rest.length ≤ n

theorem Within.ok {a : α} {rest : List Char} (h : w a + rest.length ≤ n) : Within n w (.ok (a, rest)) := by
  intro a' rest' heq
  obtain ⟨rfl, rfl⟩ := Prod.mk.inj (Except.ok.inj heq)
  exact h

theorem Within.error {f : Failure} : Within n w (.error f) := fun _ _ heq => nomatch heq

/-- the second reader starts where the first stops -/
theorem Within.bind {x : Except Failure (Reading α)} {f : Reading α → Except Failure (Reading β)} (hx : Within m w x)
    (hf : ∀ a rest, w a + rest.length ≤ m → Within n v (f (a, rest))) : Within n v (x >>= f) := by
  cases x with
  | error e => exact Within.error
  | ok r => exact hf r.1 r.2 (hx r.1 r.2 rfl)

theorem Within.map {x : Except Failure (Reading α)} {f : α → β} (hx : Within m w x)
    (hf : ∀ a k, w a + k ≤ m → v (f a) + k ≤ n) : Within n v (x.map fun r => (f r.1, r.2)) := by
  cases x with
  | error e => exact Within.error
  | ok r => exact Within.ok (hf r.1 r.2.length (hx r.1 r.2 rfl))

theorem Within.imp {r : Except Failure (Reading α)} (hr : Within m w r) (h : ∀ a k, w a + k ≤ m → w' a + k ≤ n) :
    Within n w' r := fun a rest heq => h a rest.length (hr a rest heq)

end

/-! ## Strings -/

theorem length_skipBlanks_le (s : List Char) : (skipBlanks s).length ≤ s.length :=
  (List.dropWhile_suffix isBlank).length_le

theorem Within.of_skipBlanks {α : Type} {w : α → Nat} {s : List Char} {r : Except Failure (Reading α)}
    (h : Within (skipBlanks s).length w r) : Within s.length w r :=
  h.imp fun _ _ hk => hk.trans (length_skipBlanks_le s)

theorem unit_within (s : List Char) : Within s.length (fun _ => 0) (unit s) := by
  unfold unit
  split
  · exact .error
  · split
    · exact .ok (by rw [Nat.zero_add, List.length_drop]; omega)
    · exact .error

theorem lowHalf_within (high : Nat) (s : List Char) : Within s.length (fun _ => 0) (lowHalf high s) := by
  unfold lowHalf
  split
  · exact .error
  · exact .error
  · next s =>
    refine .bind (unit_within s) fun low rest hrest => ?_
    dsimp only
    split
    · exact .ok (by rw [List.length_cons, List.length_cons]; omega)
    · exact .error
  · exact .error
  · exact .error

variable {keep : Bool}

theorem escape_within (s : List Char) : Within s.length (fun _ => 1) (escape keep s) := by
  unfold escape
  split
  · exact .error
  iterate 8 exact .ok (Nat.add_comm _ _).le
  · next s =>
    rw [List.length_cons]
    refine .bind (unit_within s) fun code rest hrest => ?_
    dsimp only
    split
    · exact .ok (by omega)
    · split
      · exact .ok (by omega)
      · split
        · exact .error
        · exact (lowHalf_within code rest).imp (by omega)
  · exact .error

theorem stringBody_within (steps : Nat) (s : List Char) : Within s.length List.length (stringBody keep steps s) := by
  fun_induction stringBody keep steps s with
  | case1 => exact .error
  | case2 => exact .ok (by simp)
  | case3 => exact .error
  | case4 steps s ih =>
    rw [List.length_cons]
    refine .bind (escape_within s) fun c rest hc => .bind (ih rest) fun cs rest' hcs => .ok ?_
    rw [List.length_cons]
    omega
  | case5 => exact .error
  | case6 steps c s _ _ _ ih =>
    rw [List.length_cons]
    refine .bind ih fun cs rest hcs => .ok ?_
    rw [List.length_cons]
    omega

/-! ## Numbers -/

theorem length_dropWhile_isDigit_le (s : List Char) : (s.dropWhile Char.isDigit).length ≤ s.length :=
  (List.dropWhile_suffix Char.isDigit).length_le

theorem wholePart_within (s : List Char) : Within s.length (fun _ => 1) (wholePart keep s) := by
  unfold wholePart
  split
  · exact .error
  · split
    · split
      · exact .error
      · exact .ok (Nat.add_comm _ _).le
    · exact .ok (Nat.add_comm _ _).le
  · next c s _ =>
    split
    · have hdrop := length_dropWhile_isDigit_le s
      exact .ok (by rw [List.length_cons]; omega)
    · exact .error

theorem fractionPart_within (s : List Char) : Within s.length (fun _ => 0) (fractionPart keep s) := by
  unfold fractionPart
  split
  · split
    · exact .error
    · next c s =>
      split
      · have hdrop := length_dropWhile_isDigit_le (c :: s)
        exact .ok (by rw [List.length_cons]; omega)
      · exact .error
  · exact .ok (Nat.zero_add _).le

theorem exponentPart_within (isZero : Bool) (s : List Char) :
    Within s.length (fun _ => 0) (exponentPart keep isZero s) := by
  unfold exponentPart
  split
  · exact .ok (Nat.zero_add _).le
  · next c s =>
    split
    · split
      next down digits hsign =>
      have hdigits : digits.length ≤ s.length := by
        split at hsign
        all_goals
          obtain ⟨-, rfl⟩ := Prod.mk.inj hsign
          simp
      have hdrop := length_dropWhile_isDigit_le digits
      have hok (e : Option Int) : Within (c :: s).length (fun _ => 0) (.ok (e, digits.dropWhile Char.isDigit)) :=
        .ok (by rw [List.length_cons]; omega)
      split
      · exact .error
      · split
        · dsimp only
          split
          · exact .error
          · exact hok _
          · exact hok _
        · exact .error
    · exact .ok (Nat.zero_add _).le

theorem numberValue?_extent {negative : Bool} {whole : List Char} {fraction : Option (List Char)} {exponent : Option Int}
    {j : Json} (h : numberValue? negative whole fraction exponent = some j) : j.extent = 1 := by
  unfold numberValue? at h
  dsimp only at h
  split at h
  · obtain rfl := Option.some.inj h
    rfl
  · obtain ⟨x, -, rfl⟩ := Option.map_eq_some_iff.1 h
    rfl

theorem number_within (negative : Bool) (s : List Char) : Within s.length extent (number keep negative s) := by
  refine .bind (wholePart_within s) fun whole s₁ hwhole => .bind (fractionPart_within s₁) fun fraction s₂ hfraction =>
    .bind (exponentPart_within _ s₂) fun exponent s₃ hexponent => ?_
  dsimp only
  split
  · next v hv => exact .ok (by rw [numberValue?_extent hv]; omega)
  · split
    · exact .error
    · exact .ok (by rw [show Json.extent .null = 1 from rfl]; omega)

/-! ## Heads -/

/-- characters that a head has at least -/
def Head.extent : Head → Nat
  | .scalar j => j.extent
  | .openArray | .openObject => 1

theorem word_within {j : Json} (hj : j.extent = 1) (w s : List Char) : Within (s.length + 1) Json.extent (word j w s) := by
  fun_induction word j w s with
  | case1 s => exact .ok (by omega)
  | case2 => exact .error
  | case3 w c s ih => exact ih.imp fun a k h => by rw [List.length_cons]; omega
  | case4 => exact .error

theorem head_within (steps : Nat) (s : List Char) : Within s.length Head.extent (head keep steps s) := by
  refine .of_skipBlanks ?_
  unfold head
  generalize skipBlanks s = s
  split
  · exact .error
  · exact (word_within rfl _ _).map fun j k h => h
  · exact (word_within rfl _ _).map fun j k h => h
  · exact (word_within rfl _ _).map fun j k h => h
  · next s =>
    refine (stringBody_within steps s).map (f := fun cs => Head.scalar (.text (String.ofList cs))) fun cs k h => ?_
    rw [Head.extent, Json.extent, String.length_ofList, List.length_cons]
    omega
  · exact .ok (Nat.add_comm _ _).le
  · exact .ok (Nat.add_comm _ _).le
  · exact (number_within true _).map fun j k h => h.trans (Nat.le_succ _)
  · split
    · exact (number_within false _).map fun j k h => h
    · exact .error

/-! ## Brackets -/

theorem memberName_within (steps : Nat) (s : List Char) : Within s.length (fun _ => 0) (memberName keep steps s) := by
  unfold memberName
  split
  · next s => exact (stringBody_within steps s).map fun cs k h => by rw [List.length_cons]; omega
  · exact .error

theorem colon_within (s : List Char) : Within s.length (fun _ => 0) (colon s) := by
  refine .of_skipBlanks ?_
  unfold colon
  generalize skipBlanks s = s
  split
  · exact .error
  · exact .ok (by rw [List.length_cons]; omega)
  · exact .error

/-- the comma or the bracket behind an item -/
theorem nextItem_within (s : List Char) : Within s.length (fun _ => 1) (nextItem s) := by
  refine .of_skipBlanks ?_
  unfold nextItem
  generalize skipBlanks s = s
  split
  · exact .error
  · exact .ok (Nat.add_comm _ _).le
  · next s =>
    have hblanks := length_skipBlanks_le s
    split
    · exact .error
    · exact .error
    · exact .ok (by rw [List.length_cons]; omega)
  · exact .error

theorem nextMember_within (s : List Char) : Within s.length (fun _ => 0) (nextMember s) := by
  refine .of_skipBlanks ?_
  unfold nextMember
  generalize skipBlanks s = s
  split
  · exact .error
  · exact .ok (by rw [List.length_cons]; omega)
  · next s =>
    have hblanks := length_skipBlanks_le s
    split
    · exact .error
    · exact .error
    · exact .ok (by rw [List.length_cons]; omega)
  · exact .error

/-! ## Embedded texts -/

theorem embeddedText_within (steps : Nat) (s : List Char) : Within s.length List.length (embeddedText steps s) := by
  refine .bind (head_within steps (skipBlanks s)) fun first rest hfirst => ?_
  have hblanks := length_skipBlanks_le s
  split
  · next inner s' heq =>
    obtain ⟨rfl, rfl⟩ := Prod.mk.inj heq
    rw [Head.extent, Json.extent] at hfirst
    exact .ok (by rw [String.length_toList]; omega)
  all_goals exact .error

theorem closeEmbedded_within (s : List Char) : Within s.length (fun _ => 0) (closeEmbedded s) := by
  refine .of_skipBlanks ?_
  unfold closeEmbedded
  generalize skipBlanks s = s
  split
  · exact .error
  · exact .ok (by rw [List.length_cons]; omega)
  · exact .error
  · exact .error

/-! ## Values -/

/-- what is read in so many steps -/
structure ReadsWithin (steps : Nat) : Prop where
  value : ∀ keep depth s, Within s.length extent (value keep steps depth s)
  items : ∀ keep depth s, Within s.length (fun xs => xs.length + 1) (items keep steps depth s)
  members : ∀ keep depth s, Within s.length (fun _ => 0) (members keep steps depth s)

theorem ReadsWithin.zero : ReadsWithin 0 where
  value := fun _ _ _ => .error
  items := fun _ _ _ => .error
  members := fun _ _ _ => .error

/-- a whole text -/
theorem ReadsWithin.wholeText {steps : Nat} (h : ReadsWithin steps) {text : List Char} {j : Json}
    (hj : wholeText text (Parser.value true steps maxDepth text) = .ok j) : j.extent ≤ text.length := by
  obtain ⟨⟨v, rest⟩, hread, hfinish⟩ := bind_eq_ok (mapError_eq_ok hj)
  obtain ⟨-, -, rfl⟩ := map_eq_ok hfinish
  exact (Nat.le_add_right _ _).trans (h.value true maxDepth text v rest hread)

theorem ReadsWithin.value_succ {steps : Nat} (h : ReadsWithin steps) (keep : Bool) (depth : Nat) (s : List Char) :
    Within s.length extent (Parser.value keep (steps + 1) depth s) := by
  rw [Parser.value]
  refine .bind (head_within (steps + 1) s) fun first s₁ hfirst => ?_
  have hblanks := length_skipBlanks_le s₁
  cases first with
  | scalar j => exact .ok hfirst
  | openArray =>
    rw [Head.extent] at hfirst
    dsimp only
    split
    · exact .error
    · exact .error
    · next heq =>
      rw [heq, List.length_cons] at hblanks
      exact .ok (by rw [extent, List.length_nil]; omega)
    · refine .bind (h.value keep _ _) fun x s₂ hx => .bind (h.items keep _ s₂) fun xs s₃ hxs => .ok ?_
      have hone := one_le_extent x
      simp only [extent, List.length_cons]
      omega
  | openObject =>
    rw [Head.extent] at hfirst
    dsimp only
    split
    · exact .error
    · exact .error
    · next heq =>
      rw [heq, List.length_cons] at hblanks
      exact .ok (by simp only [extent]; omega)
    · refine .bind (memberName_within steps _) fun name s₂ hname => .bind (colon_within s₂) fun _ s₃ hcolon => ?_
      dsimp only
      split
      -- behind the reserved name: what the embedded text spells is within it, and so within the string that holds it
      · refine .bind (embeddedText_within steps s₃) fun inner s₄ hinner => ?_
        dsimp only
        cases hwhole : Parser.wholeText inner (Parser.value true steps maxDepth inner) with
        | error e => exact .error
        | ok j =>
          have hj := h.wholeText hwhole
          refine .bind (closeEmbedded_within s₄) fun _ s₅ hclose => .ok ?_
          dsimp only
          omega
      · refine .bind (h.value keep _ s₃) fun v s₄ hv => .bind (h.members keep _ s₄) fun ms s₅ hms => .ok ?_
        simp only [extent]
        omega

theorem ReadsWithin.items_succ {steps : Nat} (h : ReadsWithin steps) (keep : Bool) (depth : Nat) (s : List Char) :
    Within s.length (fun xs => xs.length + 1) (Parser.items keep (steps + 1) depth s) := by
  rw [Parser.items]
  refine .bind (nextItem_within s) fun more s₁ hmore => ?_
  cases more with
  | false => exact .ok (by rw [List.length_nil]; omega)
  | true =>
    refine .bind (h.value keep depth s₁) fun x s₂ hx => .bind (h.items keep depth s₂) fun xs s₃ hxs => .ok ?_
    rw [List.length_cons]
    omega

theorem ReadsWithin.members_succ {steps : Nat} (h : ReadsWithin steps) (keep : Bool) (depth : Nat) (s : List Char) :
    Within s.length (fun _ => 0) (Parser.members keep (steps + 1) depth s) := by
  rw [Parser.members]
  refine .bind (nextMember_within s) fun more s₁ hmore => ?_
  cases more with
  | false => exact .ok hmore
  | true =>
    refine .bind (memberName_within steps s₁) fun name s₂ hname => .bind (colon_within s₂) fun _ s₃ hcolon =>
      .bind (h.value keep depth s₃) fun v s₄ hv => .bind (h.members keep depth s₄) fun ms s₅ hms => .ok ?_
    omega

theorem readsWithin (steps : Nat) : ReadsWithin steps := by
  induction steps with
  | zero => exact .zero
  | succ steps ih => exact ⟨ih.value_succ, ih.items_succ, ih.members_succ⟩

end Parser

/-- **Length.** The text of a string or an array that is read has a character for each of its characters or items, and
one more. -/
theorem extent_le_of_parse {s : String} {j : Json} (h : parse s = .ok j) : j.extent ≤ s.length := by
  rw [← String.length_toList]
  exact (Parser.readsWithin _).wholeText h

end FluentSql.Json
