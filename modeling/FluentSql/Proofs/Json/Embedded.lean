/-
No value that is read begins with the reserved name.

An object whose text begins with that name stands for the value of its embedded text, so it is never read as an object
that begins so: `isPlain_of_parse`. The induction is on the steps of the reader, for values, items and members together;
an embedded text is read in fewer steps than the one around it.
-/
import FluentSql.Proofs.Json.Nested
import FluentSql.Proofs.Members
import FluentSql.Proofs.Traversal

namespace FluentSql.Json

open FluentSql.Json.Parser

/-! ## Scalars -/

/-- neither an array nor an object -/
def isScalar : Json → Bool
  | .array _ | .object _ => false
  | _ => true

theorem all_isPlain_of_isScalar {j : Json} (h : j.isScalar = true) : j.all isPlain = true := by
  cases j <;> first | rfl | cases h

theorem isScalar_of_word {v j : Json} {w s rest : List Char} (hv : v.isScalar = true) (h : word v w s = .ok (j, rest)) :
    j.isScalar = true := by
  induction w generalizing s with
  | nil =>
    obtain ⟨rfl, rfl⟩ := Prod.mk.inj (Except.ok.inj h)
    exact hv
  | cons c w ih =>
    cases s with
    | nil => cases h
    | cons d s =>
      rw [word] at h
      split at h
      · exact ih h
      · cases h

theorem isScalar_of_number {negative : Bool} {s rest : List Char} {j : Json}
    (h : number true negative s = .ok (j, rest)) : j.isScalar = true := by
  obtain ⟨⟨whole, s₁⟩, -, h⟩ := bind_eq_ok h
  obtain ⟨⟨fraction, s₂⟩, -, h⟩ := bind_eq_ok h
  obtain ⟨⟨exponent, s₃⟩, -, h⟩ := bind_eq_ok h
  dsimp only at h
  split at h
  · next v hv =>
    obtain ⟨rfl, -⟩ := Prod.mk.inj (Except.ok.inj h)
    unfold numberValue? at hv
    dsimp only at hv
    split at hv
    · obtain rfl := Option.some.inj hv
      rfl
    · obtain ⟨x, -, rfl⟩ := Option.map_eq_some_iff.1 hv
      rfl
  · cases h

theorem isScalar_of_head {steps : Nat} {s rest : List Char} {j : Json}
    (h : head true steps s = .ok (.scalar j, rest)) : j.isScalar = true := by
  have hof {x : Except Failure (Reading Json)} (h : x.map (fun r => (Head.scalar r.1, r.2)) = .ok (.scalar j, rest)) :
      x = .ok (j, rest) := by
    obtain ⟨r, hr, heq⟩ := map_eq_ok h
    obtain ⟨hj, rfl⟩ := Prod.mk.inj heq
    rw [hr, ← Head.scalar.inj hj]
  unfold head at h
  split at h
  · cases h
  · exact isScalar_of_word rfl (hof h)
  · exact isScalar_of_word rfl (hof h)
  · exact isScalar_of_word rfl (hof h)
  · obtain ⟨r, -, heq⟩ := map_eq_ok h
    rw [← Head.scalar.inj (Prod.mk.inj heq).1]
    rfl
  · cases h
  · cases h
  · exact isScalar_of_number (hof h)
  · split at h
    · exact isScalar_of_number (hof h)
    · cases h

/-! ## Values -/

/-- members that are put together keep the first name in front and are among those that were read -/
theorem all_isPlain_ofPairs {name : String} {v : Json} {ms : List (String × Json)} (hname : name ≠ embeddedName)
    (hv : v.all isPlain = true) (hms : allMembers isPlain ms = true) :
    (Json.object (Members.ofPairs ((name, v) :: ms))).all isPlain = true := by
  have hfirst : isPlain (.object (Members.ofPairs ((name, v) :: ms))) = true := by
    have hnames := Members.names_ofPairs ((name, v) :: ms)
    rw [List.map_cons, List.eraseDups_cons] at hnames
    cases hpairs : Members.ofPairs ((name, v) :: ms) with
    | nil => rfl
    | cons m rest =>
      rw [hpairs, Members.names_cons] at hnames
      rw [isPlain, (List.cons.inj hnames).1]
      exact bne_iff_ne.2 hname
  have hvalues : allMembers isPlain (Members.ofPairs ((name, v) :: ms)) = true := by
    refine allMembers_iff.2 fun m hm => ?_
    obtain ⟨p, hp, hvalue⟩ := Members.exists_of_mem_ofPairs hm
    rcases List.mem_cons.1 hp with rfl | hp
    · exact hvalue ▸ hv
    · exact hvalue ▸ allMembers_iff.1 hms p hp
  rw [all, hfirst, hvalues]
  rfl

/-- what is read in so many steps -/
structure ReadsPlain (steps : Nat) : Prop where
  value : ∀ depth s j rest, value true steps depth s = .ok (j, rest) → j.all isPlain = true
  items : ∀ depth s xs rest, items true steps depth s = .ok (xs, rest) → allItems isPlain xs = true
  members : ∀ depth s ms rest, members true steps depth s = .ok (ms, rest) → allMembers isPlain ms = true

theorem ReadsPlain.zero : ReadsPlain 0 where
  value := fun _ _ _ _ h => nomatch h
  items := fun _ _ _ _ h => nomatch h
  members := fun _ _ _ _ h => nomatch h

/-- an embedded text -/
theorem ReadsPlain.wholeText {steps : Nat} (h : ReadsPlain steps) {inner : List Char} {j : Json}
    (hj : wholeText inner (Parser.value true steps maxDepth inner) = .ok j) : j.all isPlain = true := by
  obtain ⟨⟨v, rest⟩, hread, hfinish⟩ := bind_eq_ok (mapError_eq_ok hj)
  obtain ⟨-, -, rfl⟩ := map_eq_ok hfinish
  exact h.value maxDepth inner v rest hread

theorem ReadsPlain.value_succ {steps : Nat} (h : ReadsPlain steps) {depth : Nat} {s rest : List Char} {j : Json}
    (hread : Parser.value true (steps + 1) depth s = .ok (j, rest)) : j.all isPlain = true := by
  rw [Parser.value] at hread
  obtain ⟨⟨first, s₁⟩, hhead, hread⟩ := bind_eq_ok hread
  cases first with
  | scalar v =>
    obtain ⟨rfl, rfl⟩ := Prod.mk.inj (Except.ok.inj hread)
    exact all_isPlain_of_isScalar (isScalar_of_head hhead)
  | openArray =>
    dsimp only at hread
    split at hread
    · cases hread
    · cases hread
    · obtain ⟨rfl, -⟩ := Prod.mk.inj (Except.ok.inj hread)
      rfl
    · obtain ⟨⟨x, s₂⟩, hx, hread⟩ := bind_eq_ok hread
      obtain ⟨⟨xs, s₃⟩, hxs, hread⟩ := bind_eq_ok hread
      obtain ⟨rfl, -⟩ := Prod.mk.inj (Except.ok.inj hread)
      rw [all, allItems, h.value _ _ _ _ hx, h.items _ _ _ _ hxs]
      rfl
  | openObject =>
    dsimp only at hread
    split at hread
    · cases hread
    · cases hread
    · obtain ⟨rfl, -⟩ := Prod.mk.inj (Except.ok.inj hread)
      rfl
    · obtain ⟨⟨name, s₂⟩, -, hread⟩ := bind_eq_ok hread
      obtain ⟨⟨⟨⟩, s₃⟩, -, hread⟩ := bind_eq_ok hread
      dsimp only at hread
      split at hread
      -- behind the reserved name: the value of the embedded text takes the place of the object
      · obtain ⟨⟨inner, s₄⟩, -, hread⟩ := bind_eq_ok hread
        obtain ⟨v, hv, hread⟩ := bind_eq_ok hread
        obtain ⟨⟨⟨⟩, s₅⟩, -, hread⟩ := bind_eq_ok hread
        obtain ⟨rfl, -⟩ := Prod.mk.inj (Except.ok.inj hread)
        exact h.wholeText (mapError_eq_ok hv)
      · next hname =>
        obtain ⟨⟨v, s₄⟩, hv, hread⟩ := bind_eq_ok hread
        obtain ⟨⟨ms, s₅⟩, hms, hread⟩ := bind_eq_ok hread
        obtain ⟨rfl, -⟩ := Prod.mk.inj (Except.ok.inj hread)
        have hne : name ≠ embeddedName := fun heq => hname (by rw [heq]; decide)
        exact all_isPlain_ofPairs hne (h.value _ _ _ _ hv) (h.members _ _ _ _ hms)

theorem ReadsPlain.items_succ {steps : Nat} (h : ReadsPlain steps) {depth : Nat} {s rest : List Char} {xs : List Json}
    (hread : Parser.items true (steps + 1) depth s = .ok (xs, rest)) : allItems isPlain xs = true := by
  rw [Parser.items] at hread
  obtain ⟨⟨more, s₁⟩, -, hread⟩ := bind_eq_ok hread
  cases more with
  | false =>
    obtain ⟨rfl, -⟩ := Prod.mk.inj (Except.ok.inj hread)
    rfl
  | true =>
    obtain ⟨⟨x, s₂⟩, hx, hread⟩ := bind_eq_ok hread
    obtain ⟨⟨xs, s₃⟩, hxs, hread⟩ := bind_eq_ok hread
    obtain ⟨rfl, -⟩ := Prod.mk.inj (Except.ok.inj hread)
    rw [allItems, h.value _ _ _ _ hx, h.items _ _ _ _ hxs]
    rfl

theorem ReadsPlain.members_succ {steps : Nat} (h : ReadsPlain steps) {depth : Nat} {s rest : List Char}
    {ms : List (String × Json)} (hread : Parser.members true (steps + 1) depth s = .ok (ms, rest)) :
    allMembers isPlain ms = true := by
  rw [Parser.members] at hread
  obtain ⟨⟨more, s₁⟩, -, hread⟩ := bind_eq_ok hread
  cases more with
  | false =>
    obtain ⟨rfl, -⟩ := Prod.mk.inj (Except.ok.inj hread)
    rfl
  | true =>
    obtain ⟨⟨name, s₂⟩, -, hread⟩ := bind_eq_ok hread
    obtain ⟨⟨⟨⟩, s₃⟩, -, hread⟩ := bind_eq_ok hread
    obtain ⟨⟨v, s₄⟩, hv, hread⟩ := bind_eq_ok hread
    obtain ⟨⟨ms, s₅⟩, hms, hread⟩ := bind_eq_ok hread
    obtain ⟨rfl, -⟩ := Prod.mk.inj (Except.ok.inj hread)
    rw [allMembers, h.value _ _ _ _ hv, h.members _ _ _ _ hms]
    rfl

theorem readsPlain (steps : Nat) : ReadsPlain steps := by
  induction steps with
  | zero => exact .zero
  | succ steps ih =>
    exact ⟨fun _ _ _ _ => ih.value_succ, fun _ _ _ _ => ih.items_succ, fun _ _ _ _ => ih.members_succ⟩

/-- **Embedded texts show.** In no value that is read does an object begin with the reserved name. -/
theorem isPlain_of_parse {s : String} {j : Json} (h : parse s = .ok j) : j.all isPlain = true :=
  (readsPlain (s.toList.length + 1)).wholeText h

end FluentSql.Json
