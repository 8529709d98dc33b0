/-
What is seen of a password.

A text shows a password masked if it puts the asterisks for its characters between two texts that do not depend on it
(`ShowsMasked`). Such a text tells how many characters the password has and nothing else (`ShowsMasked.eq_iff`).
- `showsMasked_message`: the message of a failed connection is such a text.
- `showsMasked_inspect`, `showsMasked_inspectLines`: so are both forms in which a developer sees the options.
- `tells_length_alone`: two passwords are told apart, by any of them or by what the error holds, only if their lengths
  differ, and then by all.
-/
import FluentSql.Error
import FluentSql.Options.Basic

namespace FluentSql

/-! ## Masks -/

namespace Text

theorem masked_eq_iff {p q : String} : masked p = masked q ↔ p.length = q.length := by
  constructor
  · intro h
    have hlength := congrArg String.length h
    simpa [masked] using hlength
  · intro h
    rw [masked, masked, h]

/-- a byte more does not count -/
example : masked "pässwörd" = "********" := rfl

/-- an asterisk stands for itself in a quoted text -/
theorem flatMap_shown_replicate (n : Nat) : (List.replicate n '*').flatMap shown = List.replicate n '*' := by
  induction n with
  | zero => rfl
  | succ n ih =>
    have hstar : shown '*' = ['*'] := by decide
    rw [List.replicate_succ, List.flatMap_cons, ih, hstar, List.singleton_append]

theorem quoted_masked (s : String) : quoted (masked s) = "\"" ++ masked s ++ "\"" := by
  rw [quoted, masked, String.toList_ofList, flatMap_shown_replicate]
  apply String.toList_inj.1
  simp

end Text

/-! ## Texts around a mask -/

/-- the password is seen as asterisks, between texts that are the same for every password -/
def ShowsMasked (text : String → String) : Prop := ∃ before after, ∀ p, text p = before ++ Text.masked p ++ after

namespace ShowsMasked

theorem masked : ShowsMasked Text.masked := ⟨"", "", fun p => by rw [String.empty_append, String.append_empty]⟩

variable {text : String → String} (h : ShowsMasked text)
include h

theorem append_left (s : String) : ShowsMasked fun p => s ++ text p := by
  obtain ⟨before, after, htext⟩ := h
  refine ⟨s ++ before, after, fun p => ?_⟩
  simp only [htext p, String.append_assoc]

theorem append_right (s : String) : ShowsMasked fun p => text p ++ s := by
  obtain ⟨before, after, htext⟩ := h
  refine ⟨before, after ++ s, fun p => ?_⟩
  simp only [htext p, String.append_assoc]

/-- one of several texts in a row -/
theorem join (front back : List String) : ShowsMasked fun p => String.join (front ++ text p :: back) := by
  simp only [String.join_append, String.join_cons]
  exact (h.append_right _).append_left _

/-- one of several texts with something between them -/
theorem intercalate (between : String) (front back : List String) :
    ShowsMasked fun p => between.intercalate (front ++ text p :: back) := by
  induction front with
  | nil =>
    cases back with
    | nil => simpa using h
    | cons s back =>
      simp only [List.nil_append, String.intercalate_cons_cons]
      exact (h.append_right _).append_right _
  | cons s front ih =>
    have hcons (p : String) : between.intercalate (s :: front ++ text p :: back) =
        s ++ between ++ between.intercalate (front ++ text p :: back) :=
      String.intercalate_cons_of_ne_nil (by simp)
    simp only [hcons]
    exact ih.append_left _

/-- two passwords give the same text exactly if they have the same number of characters -/
theorem eq_iff (p q : String) : text p = text q ↔ p.length = q.length := by
  obtain ⟨before, after, htext⟩ := h
  rw [htext p, htext q, String.append_left_inj, String.append_right_inj, Text.masked_eq_iff]

end ShowsMasked

/-! ## Errors and options -/

theorem showsMasked_message (host user database : String) (cause : DriverError) :
    ShowsMasked fun p => (ConnectionFailure.ofAttempt host user p database cause).message := by
  dsimp only [ConnectionFailure.message, ConnectionFailure.ofAttempt]
  -- behind the password stand three texts and the cause, in front of it all else
  iterate 4 apply ShowsMasked.append_right
  apply ShowsMasked.append_left
  exact ShowsMasked.masked

/-- as a developer is shown the password alone -/
theorem showsMasked_quoted : ShowsMasked fun p => Text.quoted (Text.masked p) := by
  simp only [Text.quoted_masked]
  exact (ShowsMasked.masked.append_left _).append_right _

/-- the password is the fourth of the fields, and in no other -/
theorem shownFields_password (o : Options) (p : String) :
    { o with password := p }.shownFields =
      o.shownFields.take 3 ++ ("password", Text.quoted (Text.masked p)) :: o.shownFields.drop 4 := rfl

theorem showsMasked_inspect (o : Options) : ShowsMasked fun p => { o with password := p }.inspect := by
  simp only [Options.inspect, shownFields_password, List.map_append, List.map_cons]
  apply ShowsMasked.append_right
  apply ShowsMasked.append_left
  apply ShowsMasked.intercalate
  exact showsMasked_quoted.append_left ("password" ++ ": ")

theorem showsMasked_inspectLines (o : Options) : ShowsMasked fun p => { o with password := p }.inspectLines := by
  simp only [Options.inspectLines, shownFields_password, List.map_append, List.map_cons]
  apply ShowsMasked.append_right
  apply ShowsMasked.append_left
  apply ShowsMasked.join
  exact (showsMasked_quoted.append_left ("    " ++ "password" ++ ": ")).append_right ",\n"

/-- **Lengths alone.** Of two passwords, in a failed connection or in options that are otherwise the same: what the error
holds, its message, and the options as a developer is shown them on one line or on many are the same if the passwords
have the same number of characters, and are all different otherwise. -/
theorem tells_length_alone (host user database : String) (cause : DriverError) (o : Options) (p q : String) :
    let failure := fun password => ConnectionFailure.ofAttempt host user password database cause
    (failure p = failure q ↔ p.length = q.length) ∧
      ((Error.connection (failure p)).message = (Error.connection (failure q)).message ↔ p.length = q.length) ∧
      ({ o with password := p }.inspect = { o with password := q }.inspect ↔ p.length = q.length) ∧
      ({ o with password := p }.inspectLines = { o with password := q }.inspectLines ↔ p.length = q.length) := by
  intro failure
  refine ⟨?_, ?_, ?_, ?_⟩
  · simp [failure, ConnectionFailure.ofAttempt, Text.masked_eq_iff]
  · exact (showsMasked_message host user database cause).eq_iff p q
  · exact (showsMasked_inspect o).eq_iff p q
  · exact (showsMasked_inspectLines o).eq_iff p q

end FluentSql
