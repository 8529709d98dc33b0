/-
Runs of a session, step by step.

What a step does is said once, by `step_eq`: it makes at most one draft (`made?`) and executes at most one
(`executed?`), it adds one entry to the drafts and one to the reports, and it reaches the gateway only if it executes.
All that follows about runs is read off this.

`Lineage` gives for a draft the calls behind it: the beginning and the clauses of its receivers, back to the beginning.
- `lineage_draft`: a draft is what its own calls build, whatever else the run does.
- `exists_lineage`: every draft has a lineage.
-/
import Mathlib.Data.List.ReduceOption
import Mathlib.Tactic
import FluentSql.Session

namespace FluentSql

/-- a request to a gateway with its answer -/
structure Exchange where
  kind : Kind
  text : String
  outcome : Outcome

def Exchange.request (x : Exchange) : Kind × String := (x.kind, x.text)

def Draft.request (d : Draft) : Kind × String := (d.statement.kind, d.statement.text)

/-- what the gateway answers to a draft -/
def Gateway.answer {σ : Type} (g : Gateway σ) (γ : σ) (d : Draft) : Outcome × σ :=
  g.execute d.statement.kind d.statement.text γ

namespace Session

variable {σ τ : Type}

/-! ## Steps -/

/-- the draft of a step, by its number -/
def draft? (st : St σ) (n : Nat) : Option Draft := (st.drafts[n]?).join

/-- the draft that a step makes -/
def made? (st : St σ) : Step → Option Draft
  | .start e => some e.draft
  | .extend on c => (receiver? st on).bind (·.extend? c)
  | _ => none

/-- the draft that a step executes -/
def executed? (st : St σ) : Step → Option Draft
  | .execute on => (receiver? st on).filter (·.stage.isComplete)
  | _ => none

/-- the exchange that a caller is told of -/
def Report.exchange? : Report → Option Exchange
  | .ran s o => some ⟨s.kind, s.text, o⟩
  | _ => none

def Report.request? (r : Report) : Option (Kind × String) := r.exchange?.map Exchange.request

/-- for each step the request that its report is of -/
def requests (st : St σ) : List (Option (Kind × String)) := st.reports.map Report.request?

/-- the exchange with the gateway that a step leads to -/
def exchange? (g : Gateway σ) (st : St σ) (s : Step) : Option Exchange :=
  (executed? st s).map fun d => ⟨d.statement.kind, d.statement.text, (g.answer st.gateway d).1⟩

/-- what the caller of a step is told -/
def report (g : Gateway σ) (st : St σ) : Step → Report
  | .start e => .drafted e.draft
  | .extend on c => ((receiver? st on).bind (·.extend? c)).elim .refused .drafted
  | .inspect on => (receiver? st on).elim .refused fun d => .shown d.inspect
  | .execute on =>
    ((receiver? st on).filter (·.stage.isComplete)).elim .refused fun d => .ran d.statement (g.answer st.gateway d).1

/-- **One step.** It adds one draft and one report, and the gateway moves only if a draft is executed. -/
theorem step_eq (g : Gateway σ) (st : St σ) (s : Step) :
    step g st s =
      { gateway := (executed? st s).elim st.gateway fun d => (g.answer st.gateway d).2
        drafts := st.drafts ++ [made? st s]
        reports := st.reports ++ [report g st s]
        sent := st.sent ++ ((executed? st s).map Draft.request).toList } := by
  cases s with
  | start e => simp [step, record, made?, executed?, report]
  | extend on c =>
    cases h : (receiver? st on).bind (·.extend? c) with
    | none => simp [step, refuse, record, made?, executed?, report, h]
    | some d => simp [step, record, made?, executed?, report, h]
  | inspect on =>
    cases h : receiver? st on with
    | none => simp [step, refuse, record, made?, executed?, report, h]
    | some d => simp [step, record, made?, executed?, report, h]
  | execute on =>
    cases h : (receiver? st on).filter (·.stage.isComplete) with
    | none => simp [step, refuse, record, made?, executed?, report, h]
    | some d => simp [step, send, record, made?, executed?, report, h, Gateway.answer, Draft.request]

/-- a report is of an exchange exactly if the step executes a draft -/
theorem exchange?_report (g : Gateway σ) (st : St σ) (s : Step) : (report g st s).exchange? = exchange? g st s := by
  cases s with
  | start e => rfl
  | extend on c =>
    rw [report]
    cases (receiver? st on).bind (·.extend? c) <;> rfl
  | inspect on =>
    rw [report]
    cases receiver? st on <;> rfl
  | execute on =>
    rw [report, exchange?, executed?]
    cases (receiver? st on).filter (·.stage.isComplete) <;> rfl

theorem request?_report (g : Gateway σ) (st : St σ) (s : Step) :
    (report g st s).request? = (executed? st s).map Draft.request := by
  rw [Report.request?, exchange?_report, exchange?, Option.map_map]
  rfl

/-- an execution leaves the statement in the log that it sends -/
theorem event?_report (g : Gateway σ) (st : St σ) (s : Step) :
    (report g st s).event? = (executed? st s).map fun d => .executing d.statement := by
  have hexchange (r : Report) : r.event? = r.exchange?.map fun x => .executing ⟨x.kind, x.text⟩ := by
    cases r <;> rfl
  rw [hexchange, exchange?_report, exchange?, Option.map_map]
  rfl

theorem step_drafts (g : Gateway σ) (st : St σ) (s : Step) : (step g st s).drafts = st.drafts ++ [made? st s] := by
  rw [step_eq]

theorem step_reports (g : Gateway σ) (st : St σ) (s : Step) :
    (step g st s).reports = st.reports ++ [report g st s] := by
  rw [step_eq]

theorem step_requests (g : Gateway σ) (st : St σ) (s : Step) :
    requests (step g st s) = requests st ++ [(executed? st s).map Draft.request] := by
  rw [requests, step_reports, List.map_append, List.map_singleton, request?_report, requests]

theorem step_sent (g : Gateway σ) (st : St σ) (s : Step) :
    (step g st s).sent = st.sent ++ ((executed? st s).map Draft.request).toList := by
  rw [step_eq]

/-! ## Runs -/

theorem run_cons (g : Gateway σ) (st : St σ) (s : Step) (steps : List Step) :
    run g st (s :: steps) = run g (step g st s) steps := rfl

theorem run_append (g : Gateway σ) (st : St σ) (a b : List Step) : run g st (a ++ b) = run g (run g st a) b := by
  simp [run, List.foldl_append]

theorem run_snoc (g : Gateway σ) (st : St σ) (steps : List Step) (s : Step) :
    run g st (steps ++ [s]) = step g (run g st steps) s := run_append g st steps [s]

section Growth

variable {α : Type} {g : Gateway σ} {γ : σ} {f : St σ → List α} {x : St σ → Step → α}

/-- a list that grows by one entry at each step is as long as the run -/
theorem length_run (h0 : f (init γ) = []) (hf : ∀ st s, f (step g st s) = f st ++ [x st s]) (steps : List Step) :
    (f (run g (init γ) steps)).length = steps.length := by
  induction steps using List.reverseRecOn with
  | nil => simp [run, h0]
  | append_singleton steps s ih => simp [run_snoc, hf, ih]

/-- its entry number `n` is that of step number `n`, in the state before that step -/
theorem getElem?_run (h0 : f (init γ) = []) (hf : ∀ st s, f (step g st s) = f st ++ [x st s]) (steps : List Step)
    (n : Nat) : (f (run g (init γ) steps))[n]? = (steps[n]?).map (x (run g (init γ) (steps.take n))) := by
  induction steps using List.reverseRecOn with
  | nil => simp [run, h0]
  | append_singleton steps s ih =>
    have hl := length_run h0 hf steps
    rw [run_snoc, hf]
    rcases lt_trichotomy n steps.length with hn | rfl | hn
    · rw [List.getElem?_append_left (by rwa [hl]), List.getElem?_append_left hn, List.take_append_of_le_length hn.le]
      exact ih
    · rw [List.getElem?_append_right hl.le]
      simp [hl]
    · rw [List.getElem?_eq_none (by simp [hl]; omega), List.getElem?_eq_none (by simp; omega)]
      rfl

end Growth

theorem length_drafts (g : Gateway σ) (γ : σ) (steps : List Step) :
    (run g (init γ) steps).drafts.length = steps.length := length_run rfl (step_drafts g) steps

/-- the draft of a step depends on the steps up to it -/
theorem draft?_run (g : Gateway σ) (γ : σ) (steps : List Step) (n : Nat) :
    draft? (run g (init γ) steps) n = (steps[n]?).bind (made? (run g (init γ) (steps.take n))) := by
  rw [draft?, getElem?_run rfl (step_drafts g)]
  cases steps[n]? <;> rfl

theorem draft?_take (g : Gateway σ) (γ : σ) (steps : List Step) {m n : Nat} (h : m < n) :
    draft? (run g (init γ) (steps.take n)) m = draft? (run g (init γ) steps) m := by
  rw [draft?_run, draft?_run, List.getElem?_take_of_lt h, List.take_take, min_eq_left h.le]

/-- what the gateway has received is what the reports are of -/
theorem sent_run (g : Gateway σ) (γ : σ) (steps : List Step) :
    (run g (init γ) steps).sent = (requests (run g (init γ) steps)).reduceOption := by
  induction steps using List.reverseRecOn with
  | nil => rfl
  | append_singleton steps s ih =>
    rw [run_snoc, step_sent, step_requests, List.reduceOption_append, ih, List.reduceOption_singleton]

theorem effect_congr {st : St σ} {t : St τ} (h : st.drafts = t.drafts) (s : Step) :
    made? st s = made? t s ∧ executed? st s = executed? t s := by
  have hr : ∀ on, receiver? st on = receiver? t on := fun on => by
    cases on <;> simp only [receiver?, h]
  cases s with
  | start | inspect => exact ⟨rfl, rfl⟩
  | extend on c => exact ⟨by simp only [made?, hr], rfl⟩
  | execute on => exact ⟨rfl, by simp only [executed?, hr]⟩

/-- neither the drafts nor the requests depend on what the gateway answers -/
theorem run_congr (g : Gateway σ) (γ : σ) (g' : Gateway τ) (γ' : τ) (steps : List Step) :
    (run g (init γ) steps).drafts = (run g' (init γ') steps).drafts ∧
      requests (run g (init γ) steps) = requests (run g' (init γ') steps) := by
  induction steps using List.reverseRecOn with
  | nil => exact ⟨rfl, rfl⟩
  | append_singleton steps s ih =>
    obtain ⟨hmade, hexec⟩ := effect_congr ih.1 s
    simp only [run_snoc, step_drafts, step_requests, ih, hmade, hexec, and_self]

/-! ## Receivers -/

/-- the number of the step that made the receiver: it is given, or is that of the latest draft -/
inductive Refers (st : St σ) : Option Nat → Nat → Prop
  | number {m : Nat} (h : m < st.drafts.length) : Refers st (some m) m
  | latest {m : Nat} (h : (draft? st m).isSome) (hlast : ∀ k, m < k → draft? st k = none) : Refers st none m

theorem latest_eq_some_iff {drafts : List (Option Draft)} {d : Draft} :
    drafts.reverse.findSome? id = some d ↔ ∃ l₁ l₂, drafts = l₁ ++ some d :: l₂ ∧ ∀ x ∈ l₂, x = none := by
  rw [List.findSome?_eq_some_iff]
  constructor
  · rintro ⟨l₁, x, l₂, h, rfl, hl⟩
    refine ⟨l₂.reverse, l₁.reverse, ?_, fun x hx => hl x (List.mem_reverse.1 hx)⟩
    rw [← List.reverse_reverse drafts, h]
    simp
  · rintro ⟨l₁, l₂, rfl, hl⟩
    exact ⟨l₂.reverse, some d, l₁.reverse, by simp, rfl, fun x hx => hl x (List.mem_reverse.1 hx)⟩

theorem receiver?_of_refers {st : St σ} {on : Option Nat} {m : Nat} (h : Refers st on m) :
    receiver? st on = draft? st m := by
  cases h with
  | number => rfl
  | latest h hlast =>
    obtain ⟨d, hd⟩ := Option.isSome_iff_exists.1 h
    obtain ⟨hm, hd'⟩ := List.getElem?_eq_some_iff.1 (Option.join_eq_some_iff.1 hd)
    rw [hd, receiver?, latest_eq_some_iff]
    refine ⟨st.drafts.take m, st.drafts.drop (m + 1), ?_, fun x hx => ?_⟩
    · rw [← hd', List.cons_getElem_drop_succ, List.take_append_drop]
    · obtain ⟨k, hk⟩ := List.mem_iff_getElem?.1 hx
      rw [List.getElem?_drop] at hk
      have := hlast (m + 1 + k) (by omega)
      simpa [draft?, hk] using this

theorem exists_refers {st : St σ} {on : Option Nat} {d : Draft} (h : receiver? st on = some d) :
    ∃ m, Refers st on m := by
  cases on with
  | some m => exact ⟨m, .number (List.getElem?_eq_some_iff.1 (Option.join_eq_some_iff.1 h)).1⟩
  | none =>
    obtain ⟨l₁, l₂, hl, hnone⟩ := latest_eq_some_iff.1 h
    refine ⟨l₁.length, .latest (by simp [draft?, hl]) fun k hk => ?_⟩
    rw [draft?, hl, List.getElem?_append_right hk.le, ← Nat.succ_pred_eq_of_pos (Nat.sub_pos_of_lt hk)]
    rw [List.getElem?_cons_succ]
    cases hx : l₂[(k - l₁.length).pred]? with
    | none => rfl
    | some x => rw [hnone x (List.mem_of_getElem? hx)]; rfl

theorem Refers.lt {st : St σ} {on : Option Nat} {m : Nat} (h : Refers st on m) : m < st.drafts.length := by
  cases h with
  | number h => exact h
  | latest h _ =>
    by_contra hm
    simp [draft?, List.getElem?_eq_none (Nat.le_of_not_lt hm)] at h

/-! ## Lineages -/

/-- the calls behind the draft of step number `n`: the beginning, and the clauses in the order in which they were added
to one receiver after the other -/
inductive Lineage (g : Gateway σ) (γ : σ) (steps : List Step) : Nat → Entry → List Clause → Prop
  | start {n : Nat} {e : Entry} (h : steps[n]? = some (.start e)) : Lineage g γ steps n e []
  | extend {n m : Nat} {on : Option Nat} {c : Clause} {e : Entry} {cs : List Clause}
      (h : steps[n]? = some (.extend on c)) (hm : Refers (run g (init γ) (steps.take n)) on m)
      (hl : Lineage g γ steps m e cs) : Lineage g γ steps n e (cs ++ [c])

theorem build?_snoc (e : Entry) (cs : List Clause) (c : Clause) :
    e.build? (cs ++ [c]) = (e.build? cs).bind (·.extend? c) := by
  rw [Entry.build?, List.foldlM_append]
  simp [Entry.build?]

/-- a step finds its receiver as the whole run leaves it -/
theorem receiver?_take {g : Gateway σ} {γ : σ} {steps : List Step} {n m : Nat} {on : Option Nat}
    (h : Refers (run g (init γ) (steps.take n)) on m) :
    receiver? (run g (init γ) (steps.take n)) on = draft? (run g (init γ) steps) m := by
  have hm := h.lt
  rw [length_drafts, List.length_take] at hm
  rw [receiver?_of_refers h, draft?_take g γ steps (by omega)]

/-- **Drafts by their own calls.** The draft of a step is what the calls of its lineage build, and there is none exactly
if they are refused. -/
theorem lineage_draft {g : Gateway σ} {γ : σ} {steps : List Step} {n : Nat} {e : Entry} {cs : List Clause}
    (h : Lineage g γ steps n e cs) : draft? (run g (init γ) steps) n = e.build? cs := by
  induction h with
  | start h =>
    rw [draft?_run, h]
    rfl
  | extend h hm _ ih =>
    rw [draft?_run, h, build?_snoc, ← ih, ← receiver?_take hm]
    rfl

theorem exists_lineage {g : Gateway σ} {γ : σ} {steps : List Step} {n : Nat} {d : Draft}
    (h : draft? (run g (init γ) steps) n = some d) : ∃ e cs, Lineage g γ steps n e cs := by
  -- by the number of the step, as a receiver comes before its steps
  induction n using Nat.strongRecOn generalizing d with
  | ind n ih =>
    rw [draft?_run] at h
    obtain ⟨s, hs, hmade⟩ := Option.bind_eq_some_iff.1 h
    cases s with
    | start e => exact ⟨e, [], .start hs⟩
    | extend on c =>
      obtain ⟨d', hd', -⟩ := Option.bind_eq_some_iff.1 hmade
      obtain ⟨m, hm⟩ := exists_refers hd'
      have hmn := hm.lt
      rw [length_drafts, List.length_take] at hmn
      rw [receiver?_take hm] at hd'
      obtain ⟨e, cs, hl⟩ := ih m (by omega) hd'
      exact ⟨e, cs ++ [c], .extend hs hm hl⟩
    | inspect on => cases hmade
    | execute on => cases hmade

end Session

end FluentSql
