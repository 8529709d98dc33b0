/-
Options from an object.

An object in which no name comes twice is read if the fields without a default are there and every field has one of its
values; the options then hold these values and the defaults. Members that are no fields do not count, nor does the order
(`known`). Otherwise it is refused for its first member that does not fit, or if there is none for the first field that is
missing (`fault?`). A text that spells the object, in whatever way, gives the same. The induction is on the members, with
what was read before them.
-/
import FluentSql.Proofs.Members
import FluentSql.Proofs.Options.Texts

namespace FluentSql.Options

open FluentSql.Json FluentSql.Json.Spelling

/-! ## What counts -/

/-- the members that are fields -/
def known (ms : Members Json) : Members Json := ms.filter fun m => (Field.ofName? m.1).isSome

/-- the first of the fields without a default that is not there -/
def absent? (ms : Members Json) : Option Field :=
  [Field.host, Field.user, Field.database].find? fun f => (ms.lookup? f.name).isNone

/-- the first thing that is wrong with an object: a member that does not fit, and then a field that is missing -/
def fault? (ms : Members Json) : Option Mismatch :=
  (ms.findSome? misfit?).or ((absent? ms).map fun f => .missing f.name)

/-! ## Members in turn -/

theorem putMembers_known (p : Pending) (ms : Members Json) : putMembers p (known ms) = putMembers p ms := by
  induction ms generalizing p with
  | nil => rfl
  | cons m ms ih =>
    rw [known, List.filter_cons, putMembers_cons]
    cases hname : Field.ofName? m.1 with
    | none =>
      rw [p.putNamed_unknown hname]
      exact ih p
    | some f =>
      simp only [Option.isSome_some, if_true]
      rw [putMembers_cons]
      exact congrArg _ (funext ih)

/-- the first member that does not fit ends the reading -/
theorem putMembers_of_misfit {ms : Members Json} {e : Mismatch} (h : ms.findSome? misfit? = some e) (p : Pending) :
    putMembers p ms = .error e := by
  induction ms generalizing p with
  | nil => cases h
  | cons m ms ih =>
    rw [putMembers_cons]
    rw [List.findSome?_cons] at h
    split at h
    · next e' hmisfit =>
      rw [p.putNamed_of_misfit hmisfit, Option.some.inj h]
      rfl
    · next hmisfit =>
      obtain ⟨p', hput, -⟩ := p.putNamed_of_fit hmisfit
      rw [hput]
      exact ih h p'

/-- members of different names that fit are all kept -/
theorem putMembers_of_fit {ms : Members Json} (hnodup : ms.names.Nodup) (h : ms.findSome? misfit? = none) (p : Pending) :
    ∃ p', putMembers p ms = .ok p' ∧ ∀ f : Field, p'.shown f = (ms.lookup? f.name).or (p.shown f) := by
  induction ms generalizing p with
  | nil => exact ⟨p, rfl, fun f => rfl⟩
  | cons m ms ih =>
    obtain ⟨name, v⟩ := m
    rw [Members.names_cons, List.nodup_cons] at hnodup
    rw [List.findSome?_cons] at h
    split at h
    · cases h
    · next hmisfit =>
      obtain ⟨p₁, hput, hfirst⟩ := p.putNamed_of_fit hmisfit
      obtain ⟨p', hothers, hshown⟩ := ih hnodup.2 h p₁
      refine ⟨p', by rw [putMembers_cons, hput]; exact hothers, fun f => ?_⟩
      rw [hshown, hfirst, Members.lookup?]
      by_cases hf : f.name = name
      · subst hf
        rw [Members.lookup?_of_not_mem hnodup.1, if_pos rfl, if_pos rfl]
        rfl
      · rw [if_neg hf, if_neg fun hname => hf hname.symm]

/-! ## Objects -/

theorem ofJson_known (ms : Members Json) : ofJson (.object (known ms)) = ofJson (.object ms) := by
  rw [ofJson, ofJson, putMembers_known]

section

variable {ms : Members Json} (hnodup : ms.names.Nodup)
include hnodup

theorem putMembers_eq_ok (h : ms.findSome? misfit? = none) :
    ∃ p, putMembers {} ms = .ok p ∧ ∀ f : Field, p.shown f = ms.lookup? f.name := by
  obtain ⟨p, hput, hshown⟩ := putMembers_of_fit hnodup h {}
  refine ⟨p, hput, fun f => ?_⟩
  have hnone : Pending.shown {} f = none := by cases f <;> rfl
  rw [hshown, hnone, Option.or_none]

theorem findSome?_misfit?_eq_none_iff :
    ms.findSome? misfit? = none ↔ ∀ (f : Field) v, ms.lookup? f.name = some v → f.fits v = true := by
  simp only [List.findSome?_eq_none_iff, misfit?_eq_none_iff, Members.lookup?_eq_some_iff hnodup]
  exact ⟨fun h f v hmem => h _ hmem f rfl, fun h m hmem f hf => h f m.2 (hf ▸ hmem)⟩

theorem fault?_eq_none_iff : fault? ms = none ↔
    (∀ f : Field, f.isRequired = true → (ms.lookup? f.name).isSome = true) ∧
      ∀ (f : Field) v, ms.lookup? f.name = some v → f.fits v = true := by
  have habsent : absent? ms = none ↔ ∀ f : Field, f.isRequired = true → (ms.lookup? f.name).isSome = true := by
    rw [absent?, List.find?_eq_none]
    refine ⟨fun h f hf => ?_, fun h f hf => ?_⟩
    · have hmem : f ∈ [Field.host, Field.user, Field.database] := by
        revert hf
        cases f <;> decide
      simpa [Option.isSome_iff_ne_none] using h f hmem
    · have hrequired : f.isRequired = true := by
        revert f
        decide
      simpa [Option.isSome_iff_ne_none] using h f hrequired
  rw [fault?, Option.or_eq_none_iff, Option.map_eq_none_iff, findSome?_misfit?_eq_none_iff hnodup, habsent]
  exact and_comm

/-- **Refusal.** -/
theorem ofJson_eq_error_iff (e : Mismatch) : ofJson (.object ms) = .error e ↔ fault? ms = some e := by
  rw [ofJson, fault?]
  cases hmisfit : ms.findSome? misfit? with
  | some e' =>
    rw [putMembers_of_misfit hmisfit]
    exact ⟨fun h => congrArg some (Except.error.inj h), fun h => congrArg Except.error (Option.some.inj h)⟩
  | none =>
    obtain ⟨p, hput, hshown⟩ := putMembers_eq_ok hnodup hmisfit
    have habsent : absent? ms = [Field.host, .user, .database].find? fun f => (p.shown f).isNone := by
      simp only [hshown, absent?]
    have hfinish := p.finish_eq_error_iff e
    rw [← habsent] at hfinish
    rw [hput, Option.none_or, Option.map_eq_some_iff]
    simp only [eq_comm (b := e)]
    exact hfinish

/-- **Acceptance.** -/
theorem ofJson_eq_ok_iff (o : Options) :
    ofJson (.object ms) = .ok o ↔ ∀ f : Field, (ms.lookup? f.name).or f.default? = some (o.shown f) := by
  have hread (h : ms.findSome? misfit? = none) : ofJson (.object ms) = .ok o ↔
      ∀ f : Field, (ms.lookup? f.name).or f.default? = some (o.shown f) := by
    obtain ⟨p, hput, hshown⟩ := putMembers_eq_ok hnodup h
    rw [ofJson, hput]
    simp only [← hshown]
    exact p.finish_eq_ok_iff o
  constructor
  · intro h
    cases hmisfit : ms.findSome? misfit? with
    | none => exact (hread hmisfit).1 h
    | some e =>
      rw [ofJson, putMembers_of_misfit hmisfit] at h
      cases h
  · intro h
    refine (hread ((findSome?_misfit?_eq_none_iff hnodup).2 fun f v hv => ?_)).2 h
    -- what the options hold fits
    have hshown := h f
    rw [hv, Option.some_or, Option.some.injEq] at hshown
    exact hshown ▸ o.fits_shown f

theorem exists_ofJson_eq_ok_iff : (∃ o, ofJson (.object ms) = .ok o) ↔ fault? ms = none := by
  have hrefused := ofJson_eq_error_iff hnodup
  cases hread : ofJson (.object ms) with
  | ok o =>
    refine iff_of_true ⟨o, rfl⟩ (Option.eq_none_iff_forall_ne_some.2 fun e he => ?_)
    rw [(hrefused e).2 he] at hread
    cases hread
  | error e =>
    rw [(hrefused e).1 hread]
    exact iff_of_false (fun ⟨o, ho⟩ => nomatch ho) (fun h => nomatch h)

/-- **Order.** The fields may come in any other order. -/
theorem ofJson_eq_ok_iff_of_perm {ms' : Members Json} (hperm : ms'.Perm ms) (o : Options) :
    ofJson (.object ms') = .ok o ↔ ofJson (.object ms) = .ok o := by
  have hnodup' : ms'.names.Nodup := (hperm.map Prod.fst).nodup_iff.2 hnodup
  rw [ofJson_eq_ok_iff hnodup, ofJson_eq_ok_iff hnodup']
  simp only [Members.lookup?_perm hnodup' hperm]

end

/-- what comes of an object -/
structure ReadsObject (ms : Members Json) : Prop where
  /-- it is read if nothing is missing and every field has one of its values -/
  accepted : (∃ o, ofJson (.object ms) = .ok o) ↔
    (∀ f : Field, f.isRequired = true → (ms.lookup? f.name).isSome = true) ∧
      ∀ (f : Field) v, ms.lookup? f.name = some v → f.fits v = true
  /-- every field then has the value that is given, or else its default -/
  holds : ∀ o, ofJson (.object ms) = .ok o ↔ ∀ f : Field, (ms.lookup? f.name).or f.default? = some (o.shown f)
  /-- the fields may come in another order, and with other members between them -/
  unordered : ∀ ms' o, (known ms').Perm (known ms) → (ofJson (.object ms') = .ok o ↔ ofJson (.object ms) = .ok o)
  /-- it is refused for the first member that does not fit, or else for the first field that is missing -/
  refused : ∀ e, ofJson (.object ms) = .error e ↔ fault? ms = some e
  /-- members that are no fields do not count there either -/
  others : ∀ ms', known ms' = known ms → ofJson (.object ms') = ofJson (.object ms)
  /-- a text that spells the object is read as the object is -/
  text : ∀ text, Spells text (.object ms) → ofText text = (ofJson (.object ms)).mapError .mismatch

/-- **Options from an object.** -/
theorem readsObject {ms : Members Json} (hnodup : ms.names.Nodup) : ReadsObject ms where
  accepted := (exists_ofJson_eq_ok_iff hnodup).trans (fault?_eq_none_iff hnodup)
  holds := ofJson_eq_ok_iff hnodup
  unordered := fun ms' o hperm => by
    have hknown : (known ms).names.Nodup := hnodup.sublist (List.filter_sublist.map Prod.fst)
    rw [← ofJson_known ms', ofJson_eq_ok_iff_of_perm hknown hperm, ofJson_known]
  refused := ofJson_eq_error_iff hnodup
  others := fun ms' h => by rw [← ofJson_known ms', h, ofJson_known]
  text := fun text h => ofText_object hnodup h

/-- options whose fields are out of order, with one that is none among them -/
theorem readsObject_mixed :
    (Members.names [("port", Json.int ⟨0, by decide, by decide⟩), ("database", .text "d"), ("pool", .null),
      ("user", .text "u"), ("host", .text "h")]).Nodup ∧
    ofJson (.object [("port", .int ⟨0, by decide, by decide⟩), ("database", .text "d"), ("pool", .null),
      ("user", .text "u"), ("host", .text "h")]) =
        .ok ⟨"h", 0, "u", "", "d", 1, 30⟩ :=
  ⟨by decide, ((readsObject (by decide)).holds _).2 fun f => by cases f <;> rfl⟩

/-- the first member that does not fit is reported, although the host is missing -/
example : fault? [("user", .text "u"), ("connect_timeout_secs", .null), ("port", .text "3306")] =
    some (.wrongType .null (.word .uint64)) := rfl

end FluentSql.Options
