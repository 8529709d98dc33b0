/-
Equality of JSON values.

`same` compares two values from the outside in and looks up each member of the first in the second. `Equal` says what that
comes to: floats are compared as numbers, and never with integers; objects have the same members, in any order.
- `Members.lookups_iff_perm`: of two lists of members that are as long as each other and in which no name comes twice,
  one finds all its names in the other exactly if the other has the same names in another order.
- `same_iff_equal`: values whose floats are finite and whose names differ are the same exactly if they are equal.
-/
import FluentSql.Proofs.Decimal.Numbers
import FluentSql.Proofs.Json.Nested
import FluentSql.Proofs.Members
import Mathlib.Data.List.Forall2
import Mathlib.Data.List.Nodup

namespace FluentSql

/-! ## Members in another order -/

namespace Members

variable {α β : Type}

theorem mem_of_lookup? {name : String} {v : α} {ms : Members α} (h : lookup? name ms = some v) : (name, v) ∈ ms := by
  induction ms with
  | nil => cases h
  | cons m ms ih =>
    obtain ⟨n, w⟩ := m
    rw [lookup?] at h
    split_ifs at h with hn
    · obtain rfl := Option.some.inj h
      exact hn ▸ List.mem_cons_self
    · exact List.mem_cons_of_mem _ (ih h)

variable {R : α → β → Prop} {ms : Members α} {ns : Members β}

/-- what is found for the names of some members, in their order -/
theorem exists_of_lookups (h : ∀ m ∈ ms, ∃ w, lookup? m.1 ns = some w ∧ R m.2 w) :
    ∃ ns' : Members β, ms.names = ns'.names ∧ List.Forall₂ R ms.values ns'.values ∧ ns' ⊆ ns := by
  induction ms with
  | nil => exact ⟨[], rfl, .nil, List.nil_subset _⟩
  | cons m ms ih =>
    rw [List.forall_mem_cons] at h
    obtain ⟨⟨w, hw, hr⟩, hrest⟩ := h
    obtain ⟨ns', hnames, hvalues, hsubset⟩ := ih hrest
    exact ⟨(m.1, w) :: ns', congrArg (m.1 :: ·) hnames, .cons hr hvalues,
      List.cons_subset.2 ⟨mem_of_lookup? hw, hsubset⟩⟩

theorem exists_mem_of_related (hnames : ms.names = ns.names) (hvalues : List.Forall₂ R ms.values ns.values)
    {m : String × α} (hm : m ∈ ms) : ∃ w, (m.1, w) ∈ ns ∧ R m.2 w := by
  induction ms generalizing ns with
  | nil => cases hm
  | cons p ms ih =>
    cases ns with
    | nil => cases hnames
    | cons q ns =>
      obtain ⟨hname, hnames⟩ := List.cons.inj hnames
      obtain ⟨hr, hvalues⟩ := List.forall₂_cons.1 hvalues
      rcases List.mem_cons.1 hm with rfl | hm
      · exact ⟨q.2, List.mem_cons.2 (.inl (Prod.ext hname rfl)), hr⟩
      · obtain ⟨w, hw, hrw⟩ := ih hnames hvalues hm
        exact ⟨w, List.mem_cons_of_mem _ hw, hrw⟩

theorem lookups_iff_perm (hms : ms.names.Nodup) (hns : ns.names.Nodup) :
    (ms.length = ns.length ∧ ∀ m ∈ ms, ∃ w, lookup? m.1 ns = some w ∧ R m.2 w) ↔
      ∃ ns' : Members β, ms.names = ns'.names ∧ List.Forall₂ R ms.values ns'.values ∧ ns'.Perm ns := by
  have hlength {ns' : Members β} (hnames : ms.names = ns'.names) : ms.length = ns'.length := by
    simpa [names] using congrArg List.length hnames
  constructor
  · rintro ⟨hlong, hlookup⟩
    obtain ⟨ns', hnames, hvalues, hsubset⟩ := exists_of_lookups hlookup
    -- what is found has as many members and different names, so that nothing else is left
    have hnodup : ns'.Nodup := (hnames ▸ hms).of_map
    have hshort : ns.length ≤ ns'.length := by rw [← hlong, hlength hnames]
    exact ⟨ns', hnames, hvalues, (hnodup.subperm hsubset).perm_of_length_le hshort⟩
  · rintro ⟨ns', hnames, hvalues, hperm⟩
    refine ⟨(hlength hnames).trans hperm.length_eq, fun m hm => ?_⟩
    obtain ⟨w, hw, hr⟩ := exists_mem_of_related hnames hvalues hm
    exact ⟨w, (lookup?_eq_some_iff hns).2 (hperm.mem_iff.1 hw), hr⟩

end Members

theorem WordInt.val_injective {n k : WordInt} (h : n.val = k.val) : n = k := by
  cases n
  cases k
  cases h
  rfl

namespace Json

/-! ## Equal values -/

/-- equality of values -/
inductive Equal : Json → Json → Prop where
  | null : Equal .null .null
  | bool (b : Bool) : Equal (.bool b) (.bool b)
  | int (n : WordInt) : Equal (.int n) (.int n)
  /-- the same number; a zero may have another sign -/
  | float {x y : Binary64} (h : x.number? = y.number?) : Equal (.float x) (.float y)
  | text (s : String) : Equal (.text s) (.text s)
  | array {xs ys : List Json} (h : List.Forall₂ Equal xs ys) : Equal (.array xs) (.array ys)
  /-- the members of one are those of the other in some order: the same names, each with an equal value -/
  | object {ms ns ns' : List (String × Json)} (hnames : ms.map Prod.fst = ns'.map Prod.fst)
      (hvalues : List.Forall₂ Equal (ms.map Prod.snd) (ns'.map Prod.snd)) (hperm : ns'.Perm ns) :
    Equal (.object ms) (.object ns)

/-- a float is a number -/
def isNumeric : Json → Bool
  | .float x => x.unpack.isFinite
  | _ => true

/-- floats are numbers, and no name of an object comes twice -/
def isProper (j : Json) : Bool := j.isNumeric && j.hasDistinctNames

-- the recursion is on the first value; the kind of the second decides whether there is anything to compare
mutual

/-- **Equality.** Values whose floats are finite and in whose objects no name comes twice are the same exactly if they are
equal. -/
theorem same_iff_equal : ∀ {a b : Json}, a.all isProper = true → b.all isProper = true →
    (a.same b = true ↔ a.Equal b)
  | .null, b, _, _ => by
    cases b with
    | null => exact iff_of_true rfl .null
    | _ => exact iff_of_false (by simp [same]) nofun
  | .bool x, b, _, _ => by
    cases b with
    | bool y =>
      rw [same, beq_iff_eq]
      exact ⟨fun h => h ▸ .bool x, fun h => by cases h; rfl⟩
    | _ => exact iff_of_false (by simp [same]) nofun
  | .int n, b, _, _ => by
    cases b with
    | int k =>
      rw [same, beq_iff_eq]
      exact ⟨fun h => WordInt.val_injective h ▸ .int n, fun h => by cases h; rfl⟩
    | _ => exact iff_of_false (by simp [same]) nofun
  | .float x, b, ha, hb => by
    cases b with
    | float y =>
      have hx : (Json.float x).isProper = true := ha
      have hy : (Json.float y).isProper = true := hb
      rw [isProper, Bool.and_eq_true_iff] at hx hy
      rw [same, Binary64.same_iff hx.1 hy.1]
      exact ⟨.float, fun h => by cases h; assumption⟩
    | _ => exact iff_of_false (by simp [same]) nofun
  | .text s, b, _, _ => by
    cases b with
    | text t =>
      rw [same, beq_iff_eq]
      exact ⟨fun h => h ▸ .text s, fun h => by cases h; rfl⟩
    | _ => exact iff_of_false (by simp [same]) nofun
  | .array xs, b, ha, hb => by
    cases b with
    | array ys =>
      rw [all, Bool.and_eq_true_iff] at ha hb
      rw [same, sameItems_iff ha.2 hb.2]
      exact ⟨.array, fun h => by cases h; assumption⟩
    | _ => exact iff_of_false (by simp [same]) nofun
  | .object ms, b, ha, hb => by
    cases b with
    | object ns =>
      rw [all, isProper, Bool.and_eq_true_iff, Bool.and_eq_true_iff] at ha hb
      have hms : (Members.names ms).Nodup := of_decide_eq_true ha.1.2
      have hns : (Members.names ns).Nodup := of_decide_eq_true hb.1.2
      rw [same, Bool.and_eq_true_iff, beq_iff_eq, sameMembers_iff ha.2 hb.2, Members.lookups_iff_perm hms hns]
      constructor
      · rintro ⟨ns', hnames, hvalues, hperm⟩
        exact .object hnames hvalues hperm
      · rintro ⟨⟩
        exact ⟨_, ‹_›, ‹_›, ‹_›⟩
    | _ => exact iff_of_false (by simp [same]) nofun

theorem sameItems_iff : ∀ {xs ys : List Json}, allItems isProper xs = true → allItems isProper ys = true →
    (sameItems xs ys = true ↔ List.Forall₂ Equal xs ys)
  | [], ys, _, _ => by cases ys <;> simp [sameItems]
  | x :: xs, ys, hxs, hys => by
    cases ys with
    | nil => simp [sameItems]
    | cons y ys =>
      rw [allItems, Bool.and_eq_true_iff] at hxs hys
      rw [sameItems, Bool.and_eq_true_iff, same_iff_equal hxs.1 hys.1, sameItems_iff hxs.2 hys.2, List.forall₂_cons]

theorem sameMembers_iff : ∀ {ms ns : List (String × Json)}, allMembers isProper ms = true →
    allMembers isProper ns = true →
    (sameMembers ms ns = true ↔ ∀ m ∈ ms, ∃ w, Members.lookup? m.1 ns = some w ∧ m.2.Equal w)
  | [], ns, _, _ => by simp [sameMembers]
  | (name, v) :: ms, ns, hms, hns => by
    rw [allMembers, Bool.and_eq_true_iff] at hms
    rw [sameMembers, Bool.and_eq_true_iff, sameMembers_iff hms.2 hns, List.forall_mem_cons]
    refine and_congr_left fun _ => ?_
    cases hw : Members.lookup? name ns with
    | none => simp
    | some w =>
      have hproper : w.all isProper = true := allMembers_iff.1 hns _ (Members.mem_of_lookup? hw)
      simp [same_iff_equal hms.1 hproper]

end

end Json

end FluentSql
