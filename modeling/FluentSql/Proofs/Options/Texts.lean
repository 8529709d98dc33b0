/-
Options from a text and from the value that it spells.

A text is read from left to right and a value member by member, and both come to the same: an object in which no name
comes twice gives the same options or the same mismatch (`ofText_object`), and so does an array of up to seven items
(`ofText_array`). A longer array is refused either way (`ofText_long`).
-/
import FluentSql.Proofs.Json.Spelling
import FluentSql.Proofs.Options.Fields

namespace FluentSql.Options

open FluentSql.Json FluentSql.Json.Parser FluentSql.Json.Spelling

/-- what was read of a text, with the rest of it; or a mismatch -/
def reaching {α : Type} (rest : List Char) (r : Except Mismatch α) : Except Rejection (Reading α) :=
  (r.mapError .mismatch).map fun a => (a, rest)

/-- readers that go on where a text and a value have come to the same -/
theorem reaching_bind {α β : Type} {r : Except Mismatch α} {k : Reading α → Except Rejection (Reading β)}
    {k' : α → Except Mismatch β} {rest rest' : List Char}
    (h : ∀ a, r = .ok a → k (a, rest) = reaching rest' (k' a)) : reaching rest r >>= k = reaching rest' (r >>= k') := by
  cases r with
  | error e => rfl
  | ok a => exact h a rfl

section

variable (text : List Char) (steps : Nat) {s rest : List Char}

/-! ## Fields -/

/-- no field takes an array, whatever is in it -/
theorem Pending.put_array (p : Pending) (f : Field) (xs : List Json) : p.put f (.array xs) = p.put f (.array []) := by
  cases f <;> rfl

/-- nor an object -/
theorem Pending.put_object (p : Pending) (f : Field) (ms : List (String × Json)) :
    p.put f (.object ms) = p.put f (.object []) := by
  cases f <;> rfl

/-- the head of a value is enough for its field -/
theorem putHead_eq (p : Pending) (f : Field) {v : Json} (h : Value s v rest) (hsteps : s.length ≤ steps) :
    putHead text steps p f s = reaching rest (p.put f v) := by
  cases hscalar : v.isScalar with
  | true =>
    obtain ⟨v', hhead, hv⟩ := head_of_scalar true h hscalar hsteps
    obtain rfl := hv rfl
    rw [putHead, hhead]
    simp only [located, Except.mapError, bind, Except.bind, seen]
    cases p.put f v' <;> rfl
  | false =>
    obtain ⟨s₁, ⟨hhead, xs, rfl⟩ | ⟨hhead, ms, rfl⟩⟩ := head_of_container true steps h hscalar
    · have hrefused : p.put f (.array []) = .error (f.refusal (.array [])) := p.put_of_not_fits rfl
      rw [putHead, hhead, p.put_array]
      simp only [located, Except.mapError, bind, Except.bind, seen, hrefused]
      rfl
    · have hrefused : p.put f (.object []) = .error (f.refusal (.object [])) := p.put_of_not_fits rfl
      rw [putHead, hhead, p.put_object]
      simp only [located, Except.mapError, bind, Except.bind, seen, hrefused]
      rfl

/-! ## Members -/

theorem putMember_eq (p : Pending) {m : String × Json} (h : Member s m rest) (hsteps : s.length ≤ steps)
    (hnew : ∀ f : Field, f.name = m.1 → p.has f = false) :
    putMember text steps p (skipBlanks s) = reaching rest (p.putNamed m) := by
  cases h with
  | @mk _ s₁ s₂ s₃ cs v _ hquote hname hcolon hv =>
    have hquoted := length_of_skipBlanks hquote
    obtain ⟨cs', hstring, hcs⟩ := stringBody_takes true hname steps (by omega)
    obtain rfl := hcs rfl
    have hnamed := hname.length_lt
    have hcoloned := length_of_skipBlanks hcolon
    have hmember : memberName true steps (skipBlanks s) = .ok (String.ofList cs', s₂) := by
      rw [hquote, memberName, hstring]
      rfl
    rw [putMember, hmember]
    simp only [located, Except.mapError, bind, Except.bind]
    cases hfield : Field.ofName? (String.ofList cs') with
    | some f =>
      have hf := Field.ofName?_eq_some_iff.1 hfield
      have hput := putHead_eq text steps p f hv (by omega)
      rw [p.putNamed_field hf, ← hput]
      simp only [hnew f hf, Bool.false_eq_true, if_false, colon_eq hcolon]
    | none =>
      have hdepth := hv.depth_le
      obtain ⟨v', hpassed, -⟩ := value_takes false steps steps hv (by omega) (by omega) fun hk => nomatch hk
      rw [p.putNamed_unknown hfield]
      simp only [colon_eq hcolon, hpassed]
      rfl

/-- members of different names, none of which is the name of a field that was read before -/
theorem putTextMembers_eq {s₁ : List Char} {m : String × Json} {ms : List (String × Json)} (hm : Member s m s₁)
    (hms : MoreMembers s₁ ms rest) (hsteps : s.length < steps) (p : Pending) (hnodup : (Members.names (m :: ms)).Nodup)
    (hnew : ∀ f : Field, f.name ∈ Members.names (m :: ms) → p.has f = false) :
    putTextMembers text steps p (skipBlanks s) = reaching rest (putMembers p (m :: ms)) := by
  induction ms generalizing m s s₁ p steps with
  | nil =>
    obtain ⟨steps, rfl⟩ := Nat.exists_eq_add_of_lt hsteps
    have hfirst := putMember_eq text (s.length + steps) p hm (by omega) fun f hf =>
      hnew f (hf ▸ List.mem_cons_self)
    cases hms with
    | close hclose =>
      rw [putTextMembers, putMembers_cons, hfirst]
      refine reaching_bind fun p' _ => ?_
      simp only [nextMember_close hclose]
      rfl
  | cons m' ms ih =>
    obtain ⟨steps, rfl⟩ := Nat.exists_eq_add_of_lt hsteps
    have hfirst := putMember_eq text (s.length + steps) p hm (by omega) fun f hf =>
      hnew f (hf ▸ List.mem_cons_self)
    cases hms with
    | next hcomma hm' hms' =>
      rw [putTextMembers, putMembers_cons, hfirst]
      refine reaching_bind fun p' hput => ?_
      simp only [nextMember_comma hcomma hm']
      have hshorter := hm.depth_le
      have hbehind := length_of_skipBlanks hcomma
      rw [Members.names_cons, List.nodup_cons] at hnodup
      refine ih _ hm' hms' (by omega) p' hnodup.2 fun f hf => ?_
      -- another name leaves the field as it is
      have hne : f.name ≠ m.1 := fun heq => hnodup.1 (heq ▸ hf)
      have hold := hnew f (List.mem_cons_of_mem _ hf)
      rwa [p'.has_eq, Pending.shown_of_putNamed hput, if_neg hne, ← p.has_eq]

/-! ## Items -/

theorem closeArray_eq {s : List Char} (h : Items s [] rest) : closeArray s = .ok ((), rest) := by
  cases h with
  | close hclose =>
    rw [closeArray, hclose]
    rfl

/-- behind the last field nothing may follow -/
theorem closeArray_of_item {s : List Char} {x : Json} {xs : List Json} (h : Items s (x :: xs) rest) :
    ∃ e, closeArray s = .error e := by
  cases h with
  | next hcomma hx =>
    obtain ⟨c, s', hbegin, hc⟩ := begin_of_value hx
    rw [closeArray, hcomma]
    simp only [hbegin]
    split
    · next heq => exact absurd (List.cons.inj heq).1 hc
    · exact ⟨_, rfl⟩

/-- an item, with the blanks in front of it already skipped -/
theorem putHead_of_item (p : Pending) (f : Field) {v : Json} (h : Value s v rest) (hsteps : s.length ≤ steps) :
    putHead text steps p f (skipBlanks s) = reaching rest (p.put f v) := by
  rw [← putHead_eq text steps p f h hsteps, putHead, putHead, head_skipBlanks]

theorem fst_putItems_cons (index : Nat) (p : Pending) (f : Field) (fields : List Field) (x : Json) (xs : List Json) :
    (putItems index p (f :: fields) (x :: xs)).map Prod.fst =
      p.put f x >>= fun p => (putItems (index + 1) p fields xs).map Prod.fst := by
  rw [putItems]
  cases p.put f x <;> rfl

/-- up to as many items as there are fields -/
theorem putTextItems_eq {s₁ : List Char} {x : Json} {xs : List Json} {f : Field} {fields : List Field}
    (hx : Value s x s₁) (hxs : Items s₁ xs rest) (hsteps : s.length ≤ steps) (hsize : xs.length ≤ fields.length)
    (index : Nat) (p : Pending) :
    putTextItems text steps index p (f :: fields) (skipBlanks s) =
      reaching rest ((putItems index p (f :: fields) (x :: xs)).map Prod.fst) := by
  induction xs generalizing f fields x s s₁ index p with
  | nil =>
    rw [putTextItems, fst_putItems_cons, putHead_of_item text steps p f hx hsteps]
    refine reaching_bind fun p' _ => ?_
    cases fields with
    | nil =>
      simp only [closeArray_eq hxs]
      rfl
    | cons g fields =>
      cases hxs with
      | close hclose =>
        simp only [nextItem_close hclose, putItems]
        cases mayEnd (index + 1) (g :: fields) <;> rfl
  | cons x' xs ih =>
    cases fields with
    | nil => cases hsize
    | cons g fields =>
      cases hxs with
      | next hcomma hx' hxs' =>
        have hshorter := hx.depth_le
        have hbehind := length_of_skipBlanks hcomma
        rw [putTextItems, fst_putItems_cons, putHead_of_item text steps p f hx hsteps]
        refine reaching_bind fun p' _ => ?_
        simp only [nextItem_comma hcomma hx']
        exact ih hx' hxs' (by omega) (Nat.le_of_succ_le_succ hsize) (index + 1) p'

/-- more items than there are fields -/
theorem putTextItems_long {s₁ : List Char} {x : Json} {xs : List Json} {f : Field} {fields : List Field}
    (hx : Value s x s₁) (hxs : Items s₁ xs rest) (hsteps : s.length ≤ steps) (hsize : fields.length < xs.length)
    (index : Nat) (p : Pending) : ∃ e, putTextItems text steps index p (f :: fields) (skipBlanks s) = .error e := by
  induction xs generalizing f fields x s s₁ index p with
  | nil => cases hsize
  | cons x' xs ih =>
    rw [putTextItems, putHead_of_item text steps p f hx hsteps]
    cases p.put f x with
    | error e => exact ⟨_, rfl⟩
    | ok p' =>
      simp only [reaching, Except.mapError, Except.map, bind, Except.bind, located]
      cases fields with
      | nil =>
        obtain ⟨e, he⟩ := closeArray_of_item hxs
        exact ⟨_, by simp only [he]; rfl⟩
      | cons g fields =>
        cases hxs with
        | next hcomma hx' hxs' =>
          have hshorter := hx.depth_le
          have hbehind := length_of_skipBlanks hcomma
          simp only [nextItem_comma hcomma hx']
          exact ih hx' hxs' (by omega) (Nat.lt_of_succ_lt_succ hsize) (index + 1) p'

end

/-- **Items as members.** Items are read as the members that the names of the fields make of them. Then the fields that
are left must not be required, and the items that are left are given back. -/
theorem putItems_eq (index : Nat) (p : Pending) (fields : List Field) (xs : List Json) : putItems index p fields xs =
    putMembers p ((fields.map Field.name).zip xs) >>= fun p =>
      (mayEnd (index + xs.length) (fields.drop xs.length)).map fun _ => (p, xs.drop fields.length) := by
  induction fields generalizing index p xs with
  | nil => rw [List.drop_nil]; rfl
  | cons f fields ih =>
    cases xs with
    | nil => rfl
    | cons x xs =>
      rw [putItems, List.map_cons, List.zip_cons_cons, putMembers_cons, p.putNamed_field rfl]
      cases p.put f x with
      | error e => rfl
      | ok p' =>
        have hindex : index + (x :: xs).length = index + 1 + xs.length := by rw [List.length_cons]; omega
        rw [hindex]
        exact ih (index + 1) p' xs

/-- an array of no more items than there are fields -/
theorem ofJson_array {xs : List Json} (hsize : xs.length ≤ Field.all.length) :
    ofJson (.array xs) = (putItems 0 {} Field.all xs).map Prod.fst >>= Pending.finish := by
  rw [ofJson, putItems_eq, List.drop_of_length_le hsize]
  cases putMembers {} ((Field.all.map Field.name).zip xs) with
  | error e => rfl
  | ok p =>
    cases mayEnd (0 + xs.length) (Field.all.drop xs.length) with
    | error e => rfl
    | ok u =>
      simp only [Except.map, bind, Except.bind]
      cases p.finish <;> rfl

/-! ## Whole texts -/

/-- the fields that were read are completed once the text has ended -/
def complete (text : List Char) (read : Reading Pending) : Except Rejection Options := do
  let o ← read.1.finish.mapError .mismatch
  located text (Parser.finish read.2)
  return o

/-- if the text ends there, they are completed as those of a value -/
theorem complete_reaching (text : List Char) {rest : List Char} (hrest : skipBlanks rest = [])
    (r : Except Mismatch Pending) : reaching rest r >>= complete text = (r >>= Pending.finish).mapError .mismatch := by
  have hfinish : Parser.finish rest = .ok () := by rw [Parser.finish, hrest]
  cases r with
  | error e => rfl
  | ok p =>
    simp only [reaching, Except.mapError, Except.map, bind, Except.bind, complete, hfinish, located]
    cases p.finish <;> rfl

section

variable {text s₁ s' : List Char}

theorem ofChars_members (h : skipBlanks text = '\x7b' :: s₁) (hquote : skipBlanks s₁ = '"' :: s') :
    ofChars text = putTextMembers text (text.length + 1) {} (skipBlanks s₁) >>= complete text := by
  rw [ofChars, head_brace h]
  simp only [located, Except.mapError, bind, Except.bind, hquote]
  rfl

theorem ofChars_items {c : Char} (h : skipBlanks text = '[' :: s₁) (hbegin : skipBlanks s₁ = c :: s') (hc : c ≠ ']') :
    ofChars text = putTextItems text (text.length + 1) 0 {} Field.all (skipBlanks s₁) >>= complete text := by
  rw [ofChars, head_bracket h]
  simp only [located, Except.mapError, bind, Except.bind]
  -- the head is the bracket of an array, which is not closed at once
  split
  · next heq => cases heq
  · next heq _ => cases heq
  · next heq _ => cases heq
  · next heq _ _ => cases heq
  · next heq => cases hbegin.symm.trans heq
  · next heq => exact absurd (List.cons.inj (hbegin.symm.trans heq)).1 hc
  · rfl

end

section

variable {text : String}

/-- **Objects.** A text that spells an object, in which no name comes twice, is read as the object is. -/
theorem ofText_object {ms : Members Json} (hnodup : ms.names.Nodup) (h : Spells text (.object ms)) :
    ofText text = (ofJson (.object ms)).mapError .mismatch := by
  obtain ⟨rest, hvalue, hrest⟩ := h
  rw [ofText, ofJson, ← complete_reaching text.toList hrest]
  cases hvalue with
  | number t _ hv => exact nomatch t.isScalar_of_value? hv
  | emptyObject h hclose =>
    rw [ofChars, head_brace h]
    simp only [located, Except.mapError, bind, Except.bind, hclose]
    rfl
  | @object _ s₁ _ _ m ms h hm hms =>
    have hshorter := length_of_skipBlanks h
    have hnone (f : Field) : Pending.has {} f = false := by cases f <;> rfl
    obtain ⟨s', hquote⟩ := begin_of_member hm
    rw [ofChars_members h hquote, putTextMembers_eq text.toList _ hm hms (by omega) {} hnodup fun f _ => hnone f]

/-- **Arrays.** A text that spells an array, of no more items than there are fields, is read as the array is. -/
theorem ofText_array {xs : List Json} (hsize : xs.length ≤ Field.all.length) (h : Spells text (.array xs)) :
    ofText text = (ofJson (.array xs)).mapError .mismatch := by
  obtain ⟨rest, hvalue, hrest⟩ := h
  rw [ofText, ofJson_array hsize, ← complete_reaching text.toList hrest]
  cases hvalue with
  | number t _ hv => exact nomatch t.isScalar_of_value? hv
  | emptyArray h hclose =>
    rw [ofChars, head_bracket h]
    simp only [located, Except.mapError, bind, Except.bind, hclose]
    rfl
  | @array _ s₁ _ _ x xs h hx hxs =>
    have hshorter := length_of_skipBlanks h
    obtain ⟨c, s', hbegin, hc⟩ := begin_of_value hx
    have hitems := putTextItems_eq text.toList (text.toList.length + 1) (f := .host) hx hxs (by omega)
      (Nat.le_of_succ_le_succ hsize) 0 {}
    rw [ofChars_items h hbegin hc]
    exact congrArg (· >>= complete text.toList) hitems

/-- **Long arrays.** A text that spells an array of more items than there are fields is refused. -/
theorem ofText_long {xs : List Json} (hsize : Field.all.length < xs.length) (h : Spells text (.array xs)) :
    ∃ e, ofText text = .error e := by
  obtain ⟨rest, hvalue, hrest⟩ := h
  cases hvalue with
  | number t _ hv => exact nomatch t.isScalar_of_value? hv
  | emptyArray => cases hsize
  | @array _ s₁ s₂ _ x xs h hx hxs =>
    have hshorter := length_of_skipBlanks h
    obtain ⟨c, s', hbegin, hc⟩ := begin_of_value hx
    obtain ⟨e, hitems⟩ := putTextItems_long text.toList (text.toList.length + 1) (f := .host) hx hxs (by omega)
      (Nat.lt_of_succ_lt_succ hsize) 0 {}
    refine ⟨e, ?_⟩
    rw [ofText, ofChars_items h hbegin hc]
    exact congrArg (· >>= complete text.toList) hitems

end

end FluentSql.Options
