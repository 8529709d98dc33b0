/-
The fields of the options, one by one.

What options hold is seen field by field as JSON (`Options.shown`), and so are the fields read so far (`Pending.shown`).
A value that is one of its field's is kept there and changes no other field (`put_of_fits`); any other is refused for the
same reason whatever was read before (`put_of_not_fits`). The options are complete when every field was read or has a
default: `finish_eq_ok_iff`, and `finish_eq_error_iff` for what is missing.
-/
import FluentSql.Options.Reading
import FluentSql.Proofs.Traversal
import Mathlib.Tactic

namespace FluentSql.Options

open FluentSql.Json

/-! ## Fields -/

namespace Field

theorem mem_all (f : Field) : f ∈ all := by cases f <;> decide

theorem name_injective {f g : Field} (h : f.name = g.name) : f = g := by
  revert h
  cases f <;> cases g <;> decide

theorem ofName?_eq_some_iff {name : String} {f : Field} : ofName? name = some f ↔ f.name = name := by
  constructor
  · intro h
    have hname := List.find?_some h
    exact eq_of_beq hname
  · rintro rfl
    cases f <;> rfl

theorem ofName?_eq_none_iff {name : String} : ofName? name = none ↔ ∀ f : Field, f.name ≠ name := by
  rw [ofName?, List.find?_eq_none]
  simp [mem_all]

/-- the type of a field that holds an integer; the others hold texts -/
def wordType? : Field → Option WordType
  | .port => some .uint16
  | .maxConnections => some .uint32
  | .connectTimeout => some .uint64
  | .host | .user | .password | .database => none

/-- its largest value -/
def largest? : Field → Option Nat
  | .port => some 0xFFFF
  | .maxConnections => some 0xFFFFFFFF
  | .connectTimeout => some 0xFFFFFFFFFFFFFFFF
  | .host | .user | .password | .database => none

/-- the value is one of the field: a text, or an integer from 0 up to the largest -/
def fits (f : Field) : Json → Bool
  | .text _ => f.largest?.isNone
  | .int n => f.largest?.any fun (largest : Nat) => decide (0 ≤ n.val ∧ n.val ≤ largest)
  | _ => false

/-- why a value that is none of the field's is refused -/
def refusal (f : Field) (v : Json) : Mismatch :=
  match f.wordType? with
  | none => .wrongType (.ofJson v) .text
  | some w =>
    match v with
    | .int n => .outOfRange (.int n.val) (.word w)
    | v => .wrongType (.ofJson v) (.word w)

/-- what the field holds if it is not given -/
def default? : Field → Option Json
  | .host | .user | .database => none
  | .password => some (.text "")
  | .port => some (.int (.ofUInt64 3306))
  | .maxConnections => some (.int (.ofUInt64 1))
  | .connectTimeout => some (.int (.ofUInt64 30))

end Field

/-- why a member is refused: it is a field, and its value is none of the field's -/
def misfit? (m : String × Json) : Option Mismatch :=
  (Field.ofName? m.1).bind fun f => if f.fits m.2 then none else some (f.refusal m.2)

theorem misfit?_eq_none_iff {m : String × Json} : misfit? m = none ↔ ∀ f : Field, f.name = m.1 → f.fits m.2 = true := by
  simp only [misfit?, Option.bind_eq_none_iff, Field.ofName?_eq_some_iff, ite_eq_left_iff, reduceCtorEq, imp_false,
    Decidable.not_not]

/-! ## What is seen -/

/-- what the options hold in a field -/
def shown (o : Options) : Field → Json
  | .host => .text o.host
  | .port => .int (.ofUInt64 o.port.toUInt64)
  | .user => .text o.user
  | .password => .text o.password
  | .database => .text o.database
  | .maxConnections => .int (.ofUInt64 o.maxConnections.toUInt64)
  | .connectTimeout => .int (.ofUInt64 o.connectTimeout)

/-- what was read of a field -/
def Pending.shown (p : Pending) : Field → Option Json
  | .host => p.host.map .text
  | .port => p.port.map fun n => .int (.ofUInt64 n.toUInt64)
  | .user => p.user.map .text
  | .password => p.password.map .text
  | .database => p.database.map .text
  | .maxConnections => p.maxConnections.map fun n => .int (.ofUInt64 n.toUInt64)
  | .connectTimeout => p.connectTimeout.map fun n => .int (.ofUInt64 n)

theorem ofUInt64_eq {x : UInt64} {n : WordInt} (h : (x.toNat : Int) = n.val) : WordInt.ofUInt64 x = n := by
  cases n
  simpa [WordInt.ofUInt64] using h

theorem ofUInt64_inj {m n : UInt64} : WordInt.ofUInt64 m = WordInt.ofUInt64 n ↔ m = n := by
  simp [WordInt.ofUInt64, ← UInt64.toNat_inj]

/-- the fields are all there is of options -/
theorem ext_shown {o o' : Options} (h : ∀ f, o.shown f = o'.shown f) : o = o' := by
  have hhost := h .host
  have hport := h .port
  have huser := h .user
  have hpassword := h .password
  have hdatabase := h .database
  have hconnections := h .maxConnections
  have htimeout := h .connectTimeout
  cases o
  cases o'
  simp only [shown, Json.text.injEq, Json.int.injEq, ofUInt64_inj] at *
  simp_all [← UInt64.toNat_inj, UInt16.toNat_inj, UInt32.toNat_inj]

theorem fits_ofUInt64 (f : Field) (n : UInt64) :
    f.fits (.int (.ofUInt64 n)) = f.largest?.any fun largest => decide (n.toNat ≤ largest) := by
  simp [Field.fits, WordInt.ofUInt64]

theorem fits_shown (o : Options) (f : Field) : f.fits (o.shown f) = true := by
  cases f with
  | host | user | password | database => rfl
  | port =>
    have hle : o.port.toUInt64.toNat ≤ 0xFFFF := by
      have hlt := o.port.toNat_lt
      rw [UInt16.toNat_toUInt64]
      omega
    exact (fits_ofUInt64 .port _).trans (decide_eq_true hle)
  | maxConnections =>
    have hle : o.maxConnections.toUInt64.toNat ≤ 0xFFFFFFFF := by
      have hlt := o.maxConnections.toNat_lt
      rw [UInt32.toNat_toUInt64]
      omega
    exact (fits_ofUInt64 .maxConnections _).trans (decide_eq_true hle)
  | connectTimeout =>
    have hle : o.connectTimeout.toNat ≤ 0xFFFFFFFFFFFFFFFF := Nat.le_of_lt_succ o.connectTimeout.toNat_lt
    exact (fits_ofUInt64 .connectTimeout _).trans (decide_eq_true hle)

namespace Pending

theorem has_eq (p : Pending) (f : Field) : p.has f = (p.shown f).isSome := by
  cases f <;> simp [has, shown]

end Pending

/-! ## Reading one field -/

section Words

variable {f : Field} {w : WordType} (hw : f.wordType? = some w)
include hw

/-- the integers of a field are those of its type -/
theorem holds_eq (n : WordInt) : w.holds n.val = f.fits (.int n) := by
  have hlower : w.lower = 0 := by cases f <;> cases hw <;> rfl
  have hlargest : f.largest? = some (w.size - 1) := by cases f <;> cases hw <;> rfl
  have hsize : 0 < w.size := Nat.two_pow_pos w.bits
  rw [Bool.eq_iff_iff]
  simp only [WordType.holds, Field.fits, hlower, hlargest, Option.any_some, decide_eq_true_eq]
  omega

theorem readWord_of_fits {v : Json} (h : f.fits v = true) :
    ∃ n : WordInt, v = .int n ∧ readWord w v = .ok n ∧ 0 ≤ n.val ∧ ∀ largest ∈ f.largest?, n.val ≤ largest := by
  cases v with
  | int n =>
    refine ⟨n, rfl, if_pos ((holds_eq hw n).trans h), ?_⟩
    cases f <;> cases hw <;> simpa [Field.fits, Field.largest?] using h
  | text s => cases f <;> cases hw <;> cases h
  | _ => cases h

theorem readWord_of_not_fits {v : Json} (h : f.fits v = false) : readWord w v = .error (f.refusal v) := by
  rw [Field.refusal, hw]
  cases v with
  | int n =>
    rw [← holds_eq hw] at h
    simp only [readWord, h, Bool.false_eq_true, if_false]
  | _ => rfl

end Words

namespace Pending

/-- a value that fits its field is kept, and the other fields are left as they are -/
theorem put_of_fits (p : Pending) {f : Field} {v : Json} (h : f.fits v = true) :
    ∃ p', p.put f v = .ok p' ∧ ∀ g, p'.shown g = if g = f then some v else p.shown g := by
  cases f with
  | host | user | password | database =>
    cases v with
    | text s => exact ⟨_, rfl, fun g => by cases g <;> rfl⟩
    | _ => cases h
  | port =>
    obtain ⟨n, rfl, hread, hlower, hlargest⟩ := readWord_of_fits (f := .port) rfl h
    have hupper := hlargest _ rfl
    have hword : WordInt.ofUInt64 (UInt16.ofNat n.val.toNat).toUInt64 = n := ofUInt64_eq (by simp; omega)
    refine ⟨{ p with port := some (UInt16.ofNat n.val.toNat) }, by rw [put, hread]; rfl, fun g => ?_⟩
    cases g <;> simp [Pending.shown, hword]
  | maxConnections =>
    obtain ⟨n, rfl, hread, hlower, hlargest⟩ := readWord_of_fits (f := .maxConnections) rfl h
    have hupper := hlargest _ rfl
    have hword : WordInt.ofUInt64 (UInt32.ofNat n.val.toNat).toUInt64 = n := ofUInt64_eq (by simp; omega)
    refine ⟨{ p with maxConnections := some (UInt32.ofNat n.val.toNat) }, by rw [put, hread]; rfl, fun g => ?_⟩
    cases g <;> simp [Pending.shown, hword]
  | connectTimeout =>
    obtain ⟨n, rfl, hread, hlower, hlargest⟩ := readWord_of_fits (f := .connectTimeout) rfl h
    have hupper := hlargest _ rfl
    have hword : WordInt.ofUInt64 (UInt64.ofNat n.val.toNat) = n := ofUInt64_eq (by simp; omega)
    refine ⟨{ p with connectTimeout := some (UInt64.ofNat n.val.toNat) }, by rw [put, hread]; rfl, fun g => ?_⟩
    cases g <;> simp [Pending.shown, hword]

/-- a value that does not fit is refused, whatever was read before -/
theorem put_of_not_fits (p : Pending) {f : Field} {v : Json} (h : f.fits v = false) :
    p.put f v = .error (f.refusal v) := by
  cases f with
  | host | user | password | database =>
    cases v with
    | text s => cases h
    | _ => rfl
  | port | maxConnections | connectTimeout => rw [put, readWord_of_not_fits rfl h, Except.map]

/-! ## Reading one member -/

/-- a member that is a field is read, any other is passed over -/
def putNamed (p : Pending) (m : String × Json) : Except Mismatch Pending :=
  match Field.ofName? m.1 with
  | none => .ok p
  | some f => p.put f m.2

theorem putNamed_field (p : Pending) {f : Field} {m : String × Json} (h : f.name = m.1) : p.putNamed m = p.put f m.2 := by
  rw [putNamed, Field.ofName?_eq_some_iff.2 h]

theorem putNamed_unknown (p : Pending) {m : String × Json} (h : Field.ofName? m.1 = none) : p.putNamed m = .ok p := by
  rw [putNamed, h]

theorem putNamed_of_misfit (p : Pending) {m : String × Json} {e : Mismatch} (h : misfit? m = some e) :
    p.putNamed m = .error e := by
  obtain ⟨f, hf, h⟩ := Option.bind_eq_some_iff.1 h
  rw [p.putNamed_field (Field.ofName?_eq_some_iff.1 hf)]
  split at h
  · cases h
  · next hfits => rw [p.put_of_not_fits (Bool.eq_false_of_not_eq_true hfits), Option.some.inj h]

/-- a member that is not refused changes no field but its own -/
theorem putNamed_of_fit (p : Pending) {m : String × Json} (h : misfit? m = none) :
    ∃ p', p.putNamed m = .ok p' ∧ ∀ g, p'.shown g = if g.name = m.1 then some m.2 else p.shown g := by
  cases hname : Field.ofName? m.1 with
  | none =>
    refine ⟨p, p.putNamed_unknown hname, fun g => ?_⟩
    rw [if_neg (Field.ofName?_eq_none_iff.1 hname g)]
  | some f =>
    have hf := Field.ofName?_eq_some_iff.1 hname
    obtain ⟨p', hput, hshown⟩ := p.put_of_fits (misfit?_eq_none_iff.1 h f hf)
    refine ⟨p', (p.putNamed_field hf).trans hput, fun g => ?_⟩
    have hiff : g.name = m.1 ↔ g = f := ⟨fun hg => Field.name_injective (hg.trans hf.symm), fun hg => hg ▸ hf⟩
    rw [hshown g]
    simp only [hiff]

theorem shown_of_putNamed {p p' : Pending} {m : String × Json} (h : p.putNamed m = .ok p') (g : Field) :
    p'.shown g = if g.name = m.1 then some m.2 else p.shown g := by
  cases hmisfit : misfit? m with
  | none =>
    obtain ⟨q, hq, hshown⟩ := p.putNamed_of_fit hmisfit
    rw [Except.ok.inj (h.symm.trans hq), hshown]
  | some e =>
    rw [p.putNamed_of_misfit hmisfit] at h
    cases h

/-! ## Completing the options -/

theorem finish_eq_error_iff (p : Pending) (m : Mismatch) :
    p.finish = .error m ↔
      ∃ f, [Field.host, Field.user, Field.database].find? (fun f => (p.shown f).isNone) = some f ∧ m = .missing f.name := by
  cases hhost : p.host with
  | none => simp [finish, require, shown, hhost, bind, Except.bind, eq_comm]
  | some host =>
    cases huser : p.user with
    | none => simp [finish, require, shown, hhost, huser, bind, Except.bind, eq_comm]
    | some user =>
      cases hdatabase : p.database with
      | none => simp [finish, require, shown, hhost, huser, hdatabase, bind, Except.bind, eq_comm]
      | some database => simp [finish, require, shown, hhost, huser, hdatabase, bind, Except.bind, pure, Except.pure]

theorem require_eq_ok {α : Type} {f : Field} {given : Option α} {x : α} (h : require f given = .ok x) : given = some x := by
  cases given with
  | none => cases h
  | some y => exact congrArg some (Except.ok.inj h)

/-- options that are complete hold what was read, and else the defaults -/
theorem shown_of_finish {p : Pending} {o : Options} (h : p.finish = .ok o) (f : Field) :
    (p.shown f).or f.default? = some (o.shown f) := by
  obtain ⟨host, hhost, h⟩ := bind_eq_ok h
  obtain ⟨user, huser, h⟩ := bind_eq_ok h
  obtain ⟨database, hdatabase, h⟩ := bind_eq_ok h
  cases h
  cases f with
  | host => simp [shown, Options.shown, ofLogin, require_eq_ok hhost]
  | user => simp [shown, Options.shown, ofLogin, require_eq_ok huser]
  | database => simp [shown, Options.shown, ofLogin, require_eq_ok hdatabase]
  | password => cases hp : p.password <;> simp [shown, Options.shown, Field.default?, ofLogin, hp]
  | port => cases hp : p.port <;> simp [shown, Options.shown, Field.default?, ofLogin, hp]
  | maxConnections => cases hp : p.maxConnections <;> simp [shown, Options.shown, Field.default?, ofLogin, hp]
  | connectTimeout => cases hp : p.connectTimeout <;> simp [shown, Options.shown, Field.default?, ofLogin, hp]

theorem finish_eq_ok_iff (p : Pending) (o : Options) :
    p.finish = .ok o ↔ ∀ f, (p.shown f).or f.default? = some (o.shown f) := by
  refine ⟨shown_of_finish, fun h => ?_⟩
  cases hfinish : p.finish with
  | ok o' =>
    have hshown (f : Field) : o'.shown f = o.shown f := by
      rw [← Option.some.injEq, ← shown_of_finish hfinish f, h f]
    rw [ext_shown hshown]
  | error m =>
    obtain ⟨f, hf, -⟩ := (finish_eq_error_iff p m).1 hfinish
    have hnone := List.find?_some hf
    have hmem := List.mem_of_find?_eq_some hf
    have hgiven := h f
    simp only [List.mem_cons, List.not_mem_nil, or_false] at hmem
    rw [Option.isNone_iff_eq_none.1 hnone] at hgiven
    -- the three have no default
    rcases hmem with rfl | rfl | rfl <;> cases hgiven

end Pending

theorem putMembers_cons (p : Pending) (m : String × Json) (ms : Members Json) :
    putMembers p (m :: ms) = p.putNamed m >>= fun p => putMembers p ms := by
  obtain ⟨name, v⟩ := m
  rw [putMembers, Pending.putNamed]
  cases Field.ofName? name <;> rfl

end FluentSql.Options
