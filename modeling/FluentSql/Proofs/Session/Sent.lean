/-
What reaches the gateway.

`Gateway.logged` is any gateway that also writes down each request with its answer. Otherwise a run against it is the
same run, and its log is what was executed:
- `run_logged`: the log is the list of exchanges that the reports tell the callers of, in the order of the steps.
- `sent_accounting`: the requests and the events are those of the drafts executed, one for each; and the draft of each
  has, in the calls of its own lineage and in its text, what its kind requires.
-/
import FluentSql.Proofs.Session.Run
import FluentSql.Proofs.Statement.Complete

namespace FluentSql

/-- the gateway together with a log of the exchanges -/
def Gateway.logged {σ : Type} (g : Gateway σ) : Gateway (σ × List Exchange) where
  execute kind text s :=
    let (outcome, γ) := g.execute kind text s.1
    (outcome, γ, s.2 ++ [⟨kind, text, outcome⟩])

namespace Session

variable {σ : Type}

/-! ## The log -/

/-- the state with a log at its gateway -/
def St.withLog (st : St σ) (log : List Exchange) : St (σ × List Exchange) :=
  ⟨(st.gateway, log), st.drafts, st.reports, st.sent⟩

theorem report_logged (g : Gateway σ) (st : St σ) (log : List Exchange) (s : Step) :
    report g.logged (st.withLog log) s = report g st s := by
  cases s with
  | start e => rfl
  | extend on c | inspect on | execute on => cases on <;> rfl

theorem step_logged (g : Gateway σ) (st : St σ) (log : List Exchange) (s : Step) :
    step g.logged (st.withLog log) s = (step g st s).withLog (log ++ (exchange? g st s).toList) := by
  obtain ⟨hmade, hexec⟩ := effect_congr (t := st) (show (st.withLog log).drafts = st.drafts from rfl) s
  rw [step_eq, step_eq, report_logged, hmade, hexec, exchange?]
  cases executed? st s with
  | none => simp [St.withLog]
  | some d => simp [St.withLog, Gateway.answer, Gateway.logged]

/-- **The callers are told what the gateway answers.** A log at the gateway changes nothing in a run, and holds in the
end the exchanges that the reports are of. -/
theorem run_logged (g : Gateway σ) (γ : σ) (steps : List Step) :
    run g.logged (init (γ, [])) steps =
      (run g (init γ) steps).withLog ((run g (init γ) steps).reports.filterMap Report.exchange?) := by
  induction steps using List.reverseRecOn with
  | nil => rfl
  | append_singleton steps s ih =>
    rw [run_snoc, run_snoc, ih, step_logged, step_reports, List.filterMap_append, ← exchange?_report]
    cases h : (report g (run g (init γ) steps) s).exchange? <;> simp [h]

/-! ## Executions -/

/-- the draft that step number `n` of a run executes -/
def executedAt (g : Gateway σ) (γ : σ) (steps : List Step) (n : Nat) : Option Draft :=
  (steps[n]?).bind (executed? (run g (init γ) (steps.take n)))

/-- the drafts that a run executes, in its order -/
def executions (g : Gateway σ) (γ : σ) (steps : List Step) : List Draft :=
  (List.range steps.length).filterMap (executedAt g γ steps)

/-- exactly the executions of drafts that are complete are not refused -/
theorem executedAt_eq_some_iff {g : Gateway σ} {γ : σ} {steps : List Step} {n : Nat} {d : Draft} :
    executedAt g γ steps n = some d ↔ ∃ on, steps[n]? = some (.execute on) ∧
      receiver? (run g (init γ) (steps.take n)) on = some d ∧ d.stage.isComplete = true := by
  rw [executedAt, Option.bind_eq_some_iff]
  constructor
  · rintro ⟨s, hs, hx⟩
    cases s with
    | execute on => exact ⟨on, hs, Option.filter_eq_some_iff.1 hx⟩
    | start | extend | inspect => cases hx
  · rintro ⟨on, hs, hr⟩
    exact ⟨.execute on, hs, Option.filter_eq_some_iff.2 hr⟩

/-- what the report of a step shows of its execution, if it is one -/
theorem map_reports_eq {α : Type} {f : Report → Option α} {k : Draft → α} {g : Gateway σ}
    (h : ∀ st s, f (report g st s) = (executed? st s).map k) (γ : σ) (steps : List Step) :
    (run g (init γ) steps).reports.map f = (List.range steps.length).map fun n => (executedAt g γ steps n).map k := by
  refine List.ext_getElem? fun n => ?_
  rw [List.getElem?_map, getElem?_run rfl (step_reports g), List.getElem?_map]
  rcases lt_or_ge n steps.length with hn | hn
  · simp [executedAt, hn, h]
  · simp [hn]

theorem filterMap_reports_eq {α : Type} {f : Report → Option α} {k : Draft → α} {g : Gateway σ}
    (h : ∀ st s, f (report g st s) = (executed? st s).map k) (γ : σ) (steps : List Step) :
    (run g (init γ) steps).reports.filterMap f = (executions g γ steps).map k := by
  have hshown : (run g (init γ) steps).reports.filterMap f = ((run g (init γ) steps).reports.map f).filterMap id := by
    rw [List.filterMap_map]
    rfl
  rw [hshown, map_reports_eq h, List.filterMap_map, executions, List.map_filterMap]
  rfl

theorem requests_eq (g : Gateway σ) (γ : σ) (steps : List Step) :
    requests (run g (init γ) steps) =
      (List.range steps.length).map fun n => (executedAt g γ steps n).map Draft.request :=
  map_reports_eq (request?_report g) γ steps

theorem sent_eq_executions (g : Gateway σ) (γ : σ) (steps : List Step) :
    (run g (init γ) steps).sent = (executions g γ steps).map Draft.request := by
  rw [sent_run, requests, List.reduceOption, List.filterMap_map]
  exact filterMap_reports_eq (request?_report g) γ steps

/-- the caller of an execution is told the answer that the gateway gives right then -/
theorem report_of_executedAt {g : Gateway σ} {γ : σ} {steps : List Step} {n : Nat} {d : Draft}
    (h : executedAt g γ steps n = some d) :
    (run g (init γ) steps).reports[n]? =
      some (.ran d.statement (g.answer (run g (init γ) (steps.take n)).gateway d).1) := by
  obtain ⟨on, hs, hr, hc⟩ := executedAt_eq_some_iff.1 h
  rw [getElem?_run rfl (step_reports g), hs, Option.map_some, report, Option.filter_eq_some_iff.2 ⟨hr, hc⟩]
  rfl

/-- the chain of calls behind an execution -/
theorem chain_of_executedAt {g : Gateway σ} {γ : σ} {steps : List Step} {n : Nat} {d : Draft}
    (h : executedAt g γ steps n = some d) :
    d.stage.isComplete = true ∧ ∃ on m e cs, steps[n]? = some (.execute on) ∧
      Refers (run g (init γ) (steps.take n)) on m ∧ Lineage g γ steps m e cs ∧ e.build? cs = some d := by
  obtain ⟨on, hs, hr, hc⟩ := executedAt_eq_some_iff.1 h
  obtain ⟨m, hm⟩ := exists_refers hr
  rw [receiver?_take hm] at hr
  obtain ⟨e, cs, hl⟩ := exists_lineage hr
  exact ⟨hc, on, m, e, cs, hs, hm, hl, by rw [← lineage_draft hl, hr]⟩

/-- **What may reach the gateway.** Whatever the steps and the answers, the gateway receives the requests of the drafts
executed, one for each and in their order, as its own log says, and the caller of each is told the answer unchanged; each
leaves one event with its statement. Each draft executed is built by the calls of its own lineage, among which are those
that its kind requires: a DELETE has a join, a condition or a limit, an UPDATE sets once, an INSERT has columns and values,
and a SELECT has a source or is of columns and a limit alone. Its text shows them. -/
theorem sent_accounting (g : Gateway σ) (γ : σ) (steps : List Step) :
    let st := run g (init γ) steps
    st.sent = (executions g γ steps).map Draft.request ∧
      (run g.logged (init (γ, [])) steps).gateway.2.map Exchange.request = st.sent ∧
      run g.logged (init (γ, [])) steps = st.withLog (st.reports.filterMap Report.exchange?) ∧
      requests st = ((List.range steps.length).map fun n => (executedAt g γ steps n).map Draft.request) ∧
      st.events = ((executions g γ steps).map fun d => .executing d.statement) ∧
      ∀ n d, executedAt g γ steps n = some d →
        st.reports[n]? = some (.ran d.statement (g.answer (run g (init γ) (steps.take n)).gateway d).1) ∧
          ∃ on m e cs, steps[n]? = some (.execute on) ∧ Refers (run g (init γ) (steps.take n)) on m ∧
            Lineage g γ steps m e cs ∧ e.build? cs = some d ∧ Finished cs d.statement := by
  intro st
  refine ⟨sent_eq_executions g γ steps, ?_, run_logged g γ steps, requests_eq g γ steps,
    filterMap_reports_eq (event?_report g) γ steps, fun n d h => ⟨report_of_executedAt h, ?_⟩⟩
  · rw [run_logged, sent_run, requests, List.reduceOption, List.filterMap_map, St.withLog, List.map_filterMap]
    rfl
  · obtain ⟨hc, on, m, e, cs, hs, hm, hl, hb⟩ := chain_of_executedAt h
    exact ⟨on, m, e, cs, hs, hm, hl, hb, finished_of_build? hb hc⟩

/-- an execution that fails, another chain behind it, and a SELECT that must not be executed yet -/
theorem sent_accounting_after_failure :
    let steps : List Step := [.start (.delete "t"), .execute none, .extend (some 0) (.where "id=1"), .execute none,
      .start (.select ["1"]), .execute none, .extend none (.limit 1), .execute (some 6)]
    executedAt .scripted [.error .poolClosed] steps 3 = some ⟨.deleteWhere, .delete, "DELETE FROM t WHERE id=1"⟩ ∧
      (run .scripted (init [.error .poolClosed]) steps).sent =
        [(.delete, "DELETE FROM t WHERE id=1"), (.select, "SELECT 1 LIMIT 1")] ∧
      (run .scripted (init [.error .poolClosed]) steps).reports[3]? =
        some (.ran ⟨.delete, "DELETE FROM t WHERE id=1"⟩ (.failed (.execution .poolClosed))) := by
  intro steps
  have h : executedAt .scripted [.error .poolClosed] steps 3 =
      some ⟨.deleteWhere, .delete, "DELETE FROM t WHERE id=1"⟩ := rfl
  obtain ⟨hsent, -, -, -, -, hexec⟩ := sent_accounting .scripted [.error .poolClosed] steps
  exact ⟨h, hsent, (hexec 3 _ h).1⟩

end Session

end FluentSql
