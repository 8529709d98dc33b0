/-
Results that may be failures, and lists that are read item by item by a function with such results.

- `bind_eq_ok`, `map_eq_ok`, `mapError_eq_ok`, `ok_of_toOption`: what is built from a result succeeds only if that does.
- `mapM_eq_ok_iff`: the reading succeeds exactly if every item does, and gives one result for each, in their order.
- `mapM_eq_error_iff`: it fails exactly with the first item that fails; what is behind it does not count.
-/
import Mathlib.Data.List.Forall2

namespace FluentSql

/-! ## Results -/

section

variable {α β ε ε' : Type}

/-- both parts of a reading that succeeds do -/
theorem bind_eq_ok {x : Except ε α} {f : α → Except ε β} {b : β} (h : x >>= f = .ok b) : ∃ a, x = .ok a ∧ f a = .ok b := by
  cases x with
  | error e => cases h
  | ok a => exact ⟨a, rfl, h⟩

theorem map_eq_ok {x : Except ε α} {f : α → β} {b : β} (h : x.map f = .ok b) : ∃ a, x = .ok a ∧ f a = b := by
  cases x with
  | error e => cases h
  | ok a => exact ⟨a, rfl, Except.ok.inj h⟩

theorem mapError_eq_ok {x : Except ε α} {f : ε → ε'} {a : α} (h : x.mapError f = .ok a) : x = .ok a := by
  cases x with
  | error e => cases h
  | ok b => exact congrArg Except.ok (Except.ok.inj h)

theorem mapError_eq_ok_iff {x : Except ε α} {f : ε → ε'} {a : α} : x.mapError f = .ok a ↔ x = .ok a :=
  ⟨mapError_eq_ok, fun h => by rw [h]; rfl⟩

theorem exists_eq_error {x : Except ε α} (h : ∀ a, x ≠ .ok a) : ∃ e, x = .error e := by
  cases x with
  | error e => exact ⟨e, rfl⟩
  | ok a => exact absurd rfl (h a)

theorem ok_of_toOption {x : Except ε α} {a : α} (h : x.toOption = some a) : x = .ok a := by
  cases x with
  | error e => cases h
  | ok b => exact congrArg Except.ok (Option.some.inj h)

end

/-! ## Lists -/

variable {α β ε : Type} (f : α → Except ε β)

theorem mapM_cons_ok {x : α} {b : β} (h : f x = .ok b) (l : List α) :
    (x :: l).mapM f = (l.mapM f).map (b :: ·) := by
  rw [List.mapM_cons, h]
  cases l.mapM f <;> rfl

theorem mapM_cons_error {x : α} {e : ε} (h : f x = .error e) (l : List α) : (x :: l).mapM f = .error e := by
  rw [List.mapM_cons, h]
  rfl

theorem mapM_eq_ok_iff {l : List α} {r : List β} : l.mapM f = .ok r ↔ List.Forall₂ (fun a b => f a = .ok b) l r := by
  induction l generalizing r with
  | nil => cases r <;> simp [pure, Except.pure]
  | cons x l ih =>
    cases hx : f x with
    | error e =>
      rw [mapM_cons_error f hx]
      cases r <;> simp [hx]
    | ok b =>
      rw [mapM_cons_ok f hx]
      cases r with
      | nil => cases l.mapM f <;> simp [Except.map]
      | cons c r =>
        rw [List.forall₂_cons, hx, ← ih]
        cases l.mapM f <;> simp [Except.map]

theorem exists_ok_of_mem {l : List α} {r : List β} (h : l.mapM f = .ok r) {x : α} (hx : x ∈ l) : ∃ b, f x = .ok b := by
  obtain ⟨hlen, hall⟩ := List.forall₂_iff_get.1 ((mapM_eq_ok_iff f).1 h)
  obtain ⟨n, hn, rfl⟩ := List.mem_iff_getElem.1 hx
  exact ⟨r[n], hall n hn (hlen ▸ hn)⟩

/-- results of which something is known -/
theorem exists_mapM_eq_ok {P : α → β → Prop} {l : List α} (h : ∀ x ∈ l, ∃ b, f x = .ok b ∧ P x b) :
    ∃ r, l.mapM f = .ok r ∧ List.Forall₂ P l r := by
  induction l with
  | nil => exact ⟨[], rfl, .nil⟩
  | cons x l ih =>
    obtain ⟨b, hb, hP⟩ := h x List.mem_cons_self
    obtain ⟨r, hr, hall⟩ := ih fun y hy => h y (List.mem_cons_of_mem x hy)
    refine ⟨b :: r, ?_, .cons hP hall⟩
    rw [mapM_cons_ok f hb, hr]
    rfl

/-- **The first failure decides.** -/
theorem mapM_eq_error_iff {l : List α} {e : ε} :
    l.mapM f = .error e ↔
      ∃ (n : Nat) (x : α), l[n]? = some x ∧ f x = .error e ∧ ∀ m < n, ∀ y, l[m]? = some y → ∃ b, f y = .ok b := by
  induction l with
  | nil => simp [pure, Except.pure]
  | cons x l ih =>
    cases hx : f x with
    | error e' =>
      rw [mapM_cons_error f hx, Except.error.injEq]
      constructor
      · rintro rfl
        exact ⟨0, x, rfl, hx, fun m hm => absurd hm m.not_lt_zero⟩
      · rintro ⟨n, y, hy, he, hok⟩
        cases n with
        | zero =>
          obtain rfl : x = y := by simpa using hy
          rw [hx] at he
          exact Except.error.inj he
        | succ n =>
          obtain ⟨b, hb⟩ := hok 0 n.succ_pos x rfl
          rw [hx] at hb
          cases hb
    | ok b =>
      have hrest : (x :: l).mapM f = .error e ↔ l.mapM f = .error e := by
        rw [mapM_cons_ok f hx]
        cases l.mapM f <;> simp [Except.map]
      rw [hrest, ih]
      constructor
      · rintro ⟨n, y, hy, he, hok⟩
        refine ⟨n + 1, y, hy, he, fun m hm z hz => ?_⟩
        cases m with
        | zero =>
          obtain rfl : x = z := by simpa using hz
          exact ⟨b, hx⟩
        | succ m => exact hok m (Nat.lt_of_succ_lt_succ hm) z hz
      · rintro ⟨n, y, hy, he, hok⟩
        cases n with
        | zero =>
          obtain rfl : x = y := by simpa using hy
          rw [hx] at he
          cases he
        | succ n => exact ⟨n, y, hy, he, fun m hm z hz => hok (m + 1) (Nat.succ_lt_succ hm) z hz⟩

end FluentSql
