/-
Named values that are put together one by one, in the order of arrival or with their names ascending.

Every name is kept once. Of the pairs put together in the order of arrival:
- `names_ofPairs`: the names stand in the order in which they come first;
- `lookup?_ofPairs_of_last`: under each name stands the value that comes last with it;
- `length_ofPairs_eq_iff`, `ofPairs_of_nodup`: none is lost only if no name comes twice, and then they stay as they are;
- `lookup?_eq_some_iff`, `lookup?_perm`: then every name has its one value, in whatever order.

With names ascending the order of arrival does not show: `ascending_sortedOfPairs`, `lookup?_sortedOfPairs` say what is
kept, and `Ascending.eq_of_lookup?` that nothing else matters.
-/
import FluentSql.Members
import Mathlib.Data.List.Induction
import Mathlib.Data.List.Nodup
import Mathlib.Data.String.Basic

namespace FluentSql.Members

variable {α : Type}

/-! ## One pair -/

/-- a name that comes again hides what is behind -/
theorem lookup?_again (name n : String) (v w : α) (ms : Members α) :
    lookup? name ((n, v) :: (n, w) :: ms) = lookup? name ((n, v) :: ms) := by
  rw [lookup?, lookup?, lookup?]
  split <;> rfl

/-- two names that differ may stand in either order -/
theorem lookup?_swap {k n : String} (h : k ≠ n) (name : String) (w v : α) (ms : Members α) :
    lookup? name ((k, w) :: (n, v) :: ms) = lookup? name ((n, v) :: (k, w) :: ms) := by
  rw [lookup?, lookup?, lookup?, lookup?]
  by_cases hk : k = name
  · rw [if_pos hk, if_neg (fun hn => h (hk.trans hn.symm)), if_pos hk]
  · rw [if_neg hk, if_neg hk]

theorem lookup?_cons_congr {name : String} {ms ms' : Members α} (m : String × α) (h : lookup? name ms = lookup? name ms') :
    lookup? name (m :: ms) = lookup? name (m :: ms') := by
  rw [lookup?, lookup?, h]

theorem lookup?_put (name n : String) (v : α) (ms : Members α) :
    lookup? name (put n v ms) = if n = name then some v else lookup? name ms := by
  change lookup? name (put n v ms) = lookup? name ((n, v) :: ms)
  induction ms with
  | nil => rfl
  | cons m ms ih =>
    obtain ⟨k, w⟩ := m
    rw [put]
    split_ifs with hk
    · exact hk ▸ (lookup?_again name k v w ms).symm
    · calc lookup? name ((k, w) :: put n v ms)
        _ = lookup? name ((k, w) :: (n, v) :: ms) := lookup?_cons_congr (k, w) ih
        _ = lookup? name ((n, v) :: (k, w) :: ms) := lookup?_swap hk name w v ms

theorem names_cons (m : String × α) (ms : Members α) : names (m :: ms) = m.1 :: names ms := rfl

theorem names_put (n : String) (v : α) (ms : Members α) :
    (put n v ms).names = if n ∈ ms.names then ms.names else ms.names ++ [n] := by
  induction ms with
  | nil => rfl
  | cons m ms ih =>
    obtain ⟨k, w⟩ := m
    rw [names_cons]
    by_cases hk : k = n
    · rw [put, if_pos hk, names_cons, if_pos (hk ▸ List.mem_cons_self)]
    · rw [put, if_neg hk, names_cons, ih]
      by_cases hmem : n ∈ names ms
      · rw [if_pos hmem, if_pos (List.mem_cons_of_mem k hmem)]
      · rw [if_neg hmem, if_neg (List.not_mem_cons_of_ne_of_not_mem (fun h => hk h.symm) hmem), List.cons_append]

theorem put_of_not_mem {n : String} {ms : Members α} (h : n ∉ ms.names) (v : α) : put n v ms = ms ++ [(n, v)] := by
  induction ms with
  | nil => rfl
  | cons m ms ih =>
    obtain ⟨k, w⟩ := m
    rw [names_cons, List.mem_cons, not_or] at h
    rw [put, if_neg fun hk => h.1 hk.symm, ih h.2, List.cons_append]

theorem mem_put {n : String} {v : α} {ms : Members α} {m : String × α} (h : m ∈ put n v ms) : m ∈ ms ∨ m.2 = v := by
  induction ms with
  | nil =>
    rw [put, List.mem_singleton] at h
    exact .inr (congrArg Prod.snd h)
  | cons p ms ih =>
    obtain ⟨k, w⟩ := p
    rw [put] at h
    split at h
    · rcases List.mem_cons.1 h with rfl | hmem
      · exact .inr rfl
      · exact .inl (List.mem_cons_of_mem _ hmem)
    · rcases List.mem_cons.1 h with rfl | hmem
      · exact .inl List.mem_cons_self
      · exact (ih hmem).imp_left (List.mem_cons_of_mem _)

/-! ## Any number of pairs -/

theorem ofPairs_snoc (ps : List (String × α)) (p : String × α) : ofPairs (ps ++ [p]) = (ofPairs ps).put p.1 p.2 := by
  simp [ofPairs]

/-- every value is one of those that were put together -/
theorem exists_of_mem_ofPairs {ps : List (String × α)} {m : String × α} (h : m ∈ ofPairs ps) : ∃ p ∈ ps, p.2 = m.2 := by
  induction ps using List.reverseRecOn with
  | nil => cases h
  | append_singleton ps p ih =>
    rw [ofPairs_snoc] at h
    rcases mem_put h with hmem | hvalue
    · obtain ⟨q, hq, hqm⟩ := ih hmem
      exact ⟨q, List.mem_append_left _ hq, hqm⟩
    · exact ⟨p, List.mem_append_right _ List.mem_cons_self, hvalue.symm⟩

/-- **Places.** A name stands where it comes first. -/
theorem names_ofPairs (ps : List (String × α)) : (ofPairs ps).names = (ps.map Prod.fst).eraseDups := by
  induction ps using List.reverseRecOn with
  | nil => rfl
  | append_singleton ps p ih =>
    rw [ofPairs_snoc, names_put, ih, List.map_append, List.eraseDups_append]
    by_cases h : p.1 ∈ ps.map Prod.fst
    · simp [h, List.removeAll]
    · simp [h, List.removeAll, List.eraseDups_cons]

theorem mem_names_ofPairs (n : String) (ps : List (String × α)) : n ∈ (ofPairs ps).names ↔ n ∈ ps.map Prod.fst := by
  rw [names_ofPairs, List.mem_eraseDups]

/-- **Values.** Of the pairs with one name the last counts. -/
theorem lookup?_ofPairs_of_last {name : String} {v : α} {ps : List (String × α)} {j : Nat}
    (h : ps[j]? = some (name, v)) (hlast : ∀ j' q, j < j' → ps[j']? = some q → q.1 ≠ name) :
    lookup? name (ofPairs ps) = some v := by
  induction ps using List.reverseRecOn with
  | nil => simp at h
  | append_singleton ps p ih =>
    rw [ofPairs_snoc, lookup?_put]
    rcases Nat.lt_or_ge j ps.length with hj | hj
    · have hp : p.1 ≠ name := hlast ps.length p hj List.getElem?_concat_length
      rw [if_neg hp]
      rw [List.getElem?_append_left hj] at h
      refine ih h fun j' q hlt hq => hlast j' q hlt ?_
      rwa [List.getElem?_append_left (List.getElem?_eq_some_iff.1 hq).1]
    · rw [List.getElem?_append_right hj, List.getElem?_singleton] at h
      split at h
      · rw [Option.some.injEq] at h
        rw [h, if_pos rfl]
      · cases h

theorem length_put (n : String) (v : α) (ms : Members α) :
    (put n v ms).length = if n ∈ ms.names then ms.length else ms.length + 1 := by
  have h := congrArg List.length (names_put n v ms)
  split_ifs at h ⊢ with hmem
  · simpa [names] using h
  · simpa [names] using h

theorem length_ofPairs_le (ps : List (String × α)) : (ofPairs ps).length ≤ ps.length := by
  induction ps using List.reverseRecOn with
  | nil => exact Nat.le_refl 0
  | append_singleton ps p ih =>
    rw [ofPairs_snoc, length_put, List.length_append, List.length_singleton]
    split <;> omega

/-- no pair is lost only if no name comes twice -/
theorem length_ofPairs_eq_iff (ps : List (String × α)) :
    (ofPairs ps).length = ps.length ↔ (ps.map Prod.fst).Nodup := by
  induction ps using List.reverseRecOn with
  | nil => simp [ofPairs]
  | append_singleton ps p ih =>
    have hle := length_ofPairs_le ps
    have hnodup : ((ps ++ [p]).map Prod.fst).Nodup ↔ (ps.map Prod.fst).Nodup ∧ p.1 ∉ ps.map Prod.fst := by
      rw [List.map_append, List.map_singleton, ← List.concat_eq_append, List.nodup_concat]
      exact and_comm
    rw [hnodup, ← ih, ← mem_names_ofPairs, ofPairs_snoc, length_put, List.length_append, List.length_singleton]
    split
    · next hmem => simp only [hmem, not_true_eq_false, and_false, iff_false]; omega
    · next hmem => simp only [hmem, not_false_eq_true, and_true]; omega

/-- pairs of different names stay as they are -/
theorem ofPairs_of_nodup {ps : List (String × α)} (h : (ps.map Prod.fst).Nodup) : ofPairs ps = ps := by
  induction ps using List.reverseRecOn with
  | nil => rfl
  | append_singleton ps p ih =>
    rw [List.map_append, List.nodup_append] at h
    obtain ⟨hps, -, hdisj⟩ := h
    have hnot : p.1 ∉ (ofPairs ps).names := by
      rw [mem_names_ofPairs]
      exact fun hmem => hdisj p.1 hmem p.1 List.mem_cons_self rfl
    rw [ofPairs_snoc, put_of_not_mem hnot, ih hps]

/-! ## Distinct names -/

theorem lookup?_of_not_mem {name : String} {ms : Members α} (h : name ∉ ms.names) : lookup? name ms = none := by
  induction ms with
  | nil => rfl
  | cons m ms ih =>
    rw [names_cons, List.mem_cons, not_or] at h
    rw [lookup?, if_neg fun hname => h.1 hname.symm, ih h.2]

/-- where no name comes twice, a name has the value with which it comes -/
theorem lookup?_eq_some_iff {name : String} {v : α} {ms : Members α} (h : ms.names.Nodup) :
    lookup? name ms = some v ↔ (name, v) ∈ ms := by
  induction ms with
  | nil => simp [lookup?]
  | cons m ms ih =>
    obtain ⟨n, w⟩ := m
    rw [names_cons, List.nodup_cons] at h
    rw [lookup?, List.mem_cons, Prod.mk.injEq]
    by_cases hn : n = name
    · subst hn
      have hnot : (n, v) ∉ ms := fun hmem => h.1 (List.mem_map.2 ⟨(n, v), hmem, rfl⟩)
      rw [if_pos rfl, Option.some.injEq, eq_comm]
      simp only [hnot, true_and, or_false]
    · have hne : name ≠ n := fun heq => hn heq.symm
      rw [if_neg hn, ih h.2]
      simp only [hne, false_and, false_or]

/-- and the order of the members does not count -/
theorem lookup?_perm {name : String} {ms ms' : Members α} (h : ms.names.Nodup) (hperm : ms.Perm ms') :
    lookup? name ms = lookup? name ms' := by
  have h' : ms'.names.Nodup := (hperm.map Prod.fst).nodup_iff.1 h
  refine Option.ext fun v => ?_
  rw [lookup?_eq_some_iff h, lookup?_eq_some_iff h', hperm.mem_iff]

/-! ## Ascending names -/

/-- every name is larger than those in front of it -/
def Ascending (ms : Members α) : Prop := ms.Pairwise fun m m' => m.1 < m'.1

theorem Ascending.pairwise_names {ms : Members α} (h : ms.Ascending) : ms.names.Pairwise (· < ·) := List.pairwise_map.2 h

theorem Ascending.nodup {ms : Members α} (h : ms.Ascending) : ms.names.Nodup := h.pairwise_names.imp ne_of_lt

/-- ascending members are known by what is looked up in them -/
theorem Ascending.eq_of_lookup? {ms ms' : Members α} (h : ms.Ascending) (h' : ms'.Ascending)
    (hlookup : ∀ name, lookup? name ms = lookup? name ms') : ms = ms' := by
  have hperm : ms.Perm ms' := by
    refine (List.perm_ext_iff_of_nodup h.nodup.of_map h'.nodup.of_map).2 fun m => ?_
    rw [← lookup?_eq_some_iff h.nodup, hlookup, lookup?_eq_some_iff h'.nodup]
  exact hperm.eq_of_pairwise (fun _ _ _ _ hlt hgt => absurd hlt hgt.asymm) h h'

theorem mem_putSorted {n : String} {v : α} {ms : Members α} {m : String × α} (h : m ∈ putSorted n v ms) :
    m = (n, v) ∨ m ∈ ms := by
  induction ms with
  | nil => exact .inl (List.mem_singleton.1 h)
  | cons p ms ih =>
    obtain ⟨k, w⟩ := p
    rw [putSorted] at h
    split_ifs at h with heq hlt
    · rw [heq] at h
      exact (List.mem_cons.1 h).imp_right (List.mem_cons_of_mem _)
    · exact List.mem_cons.1 h
    · rcases List.mem_cons.1 h with rfl | hmem
      · exact .inr List.mem_cons_self
      · exact (ih hmem).imp_right (List.mem_cons_of_mem _)

theorem lookup?_putSorted (name n : String) (v : α) (ms : Members α) :
    lookup? name (putSorted n v ms) = if n = name then some v else lookup? name ms := by
  change lookup? name (putSorted n v ms) = lookup? name ((n, v) :: ms)
  induction ms with
  | nil => rfl
  | cons m ms ih =>
    obtain ⟨k, w⟩ := m
    rw [putSorted]
    split_ifs with hk hlt
    · exact hk ▸ (lookup?_again name k v w ms).symm
    · rfl
    · calc lookup? name ((k, w) :: putSorted n v ms)
        _ = lookup? name ((k, w) :: (n, v) :: ms) := lookup?_cons_congr (k, w) ih
        _ = lookup? name ((n, v) :: (k, w) :: ms) := lookup?_swap hk name w v ms

theorem Ascending.putSorted {ms : Members α} (h : ms.Ascending) (n : String) (v : α) : (putSorted n v ms).Ascending := by
  induction ms with
  | nil => exact List.pairwise_singleton _ _
  | cons m ms ih =>
    obtain ⟨k, w⟩ := m
    obtain ⟨hfirst, hrest⟩ := List.pairwise_cons.1 h
    rw [Members.putSorted]
    split_ifs with heq hlt
    · exact List.pairwise_cons.2 ⟨hfirst, hrest⟩
    · refine List.pairwise_cons.2 ⟨fun m hm => ?_, h⟩
      rcases List.mem_cons.1 hm with rfl | hmem
      · exact hlt
      · exact hlt.trans (hfirst m hmem)
    · refine List.pairwise_cons.2 ⟨fun m hm => ?_, ih hrest⟩
      rcases mem_putSorted hm with rfl | hmem
      · exact lt_of_le_of_ne (not_lt.1 hlt) heq
      · exact hfirst m hmem

theorem sortedOfPairs_snoc (ps : List (String × α)) (p : String × α) :
    sortedOfPairs (ps ++ [p]) = (sortedOfPairs ps).putSorted p.1 p.2 := by
  simp [sortedOfPairs]

theorem ascending_sortedOfPairs (ps : List (String × α)) : (sortedOfPairs ps).Ascending := by
  induction ps using List.reverseRecOn with
  | nil => exact List.Pairwise.nil
  | append_singleton ps p ih =>
    rw [sortedOfPairs_snoc]
    exact ih.putSorted p.1 p.2

/-- the value that comes last with the name -/
def latest? (name : String) (ps : List (String × α)) : Option α := lookup? name ps.reverse

theorem lookup?_sortedOfPairs (name : String) (ps : List (String × α)) :
    lookup? name (sortedOfPairs ps) = latest? name ps := by
  induction ps using List.reverseRecOn with
  | nil => rfl
  | append_singleton ps p ih =>
    rw [sortedOfPairs_snoc, lookup?_putSorted, ih, latest?, latest?, List.reverse_append, List.reverse_singleton,
      List.singleton_append, lookup?]

/-- **Ascending names.** Two sequences of pairs whose names have the same last values make the same members. -/
theorem sortedOfPairs_eq_of_latest? {ps qs : List (String × α)} (h : ∀ name, latest? name ps = latest? name qs) :
    sortedOfPairs ps = sortedOfPairs qs :=
  (ascending_sortedOfPairs ps).eq_of_lookup? (ascending_sortedOfPairs qs) fun name => by
    rw [lookup?_sortedOfPairs, lookup?_sortedOfPairs, h name]

theorem putSorted_ne_nil (n : String) (v : α) (ms : Members α) : putSorted n v ms ≠ [] := by
  cases ms with
  | nil => exact List.cons_ne_nil _ _
  | cons m ms =>
    unfold putSorted
    split
    · exact List.cons_ne_nil _ _
    · split <;> exact List.cons_ne_nil _ _

/-- of the pairs put into a sorted map some may be lost, but never all -/
theorem sortedOfPairs_eq_nil_iff (ps : List (String × α)) : sortedOfPairs ps = [] ↔ ps = [] := by
  induction ps using List.reverseRecOn with
  | nil => exact iff_of_true rfl rfl
  | append_singleton ps p _ =>
    rw [sortedOfPairs_snoc]
    exact iff_of_false (putSorted_ne_nil _ _ _) (List.append_ne_nil_of_right_ne_nil _ (List.cons_ne_nil _ _))

end FluentSql.Members
