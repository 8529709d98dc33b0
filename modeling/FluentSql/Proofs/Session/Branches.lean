/-
Branches of a session do not interfere.

A draft can be extended in several ways, and the calls of several chains can be made in any order. Nothing that is done
to a draft changes it or another one:
- `replay_run`: the calls of a lineage, made alone on another session, end in what they build.
- `own_trail_weave`: chains that are woven together make and send, each for itself, what they make and send alone. The
  invariant is `Tracks`: what a chain knows of the drafts of the session is what it would have made alone.
- `chain_alone`, `interleavings_agree`: what follows for the drafts and the requests of each chain, and for two orders of
  the same chains.
- `branches_independent`: all of it.
-/
import FluentSql.Proofs.Session.Run

namespace FluentSql.Session

variable {σ τ : Type}

/-! ## Replays -/

/-- the calls alone, each on what the one before it has made -/
def replay (e : Entry) (cs : List Clause) : List Step := .start e :: cs.mapIdx fun i c => .extend (some i) c

theorem replay_snoc (e : Entry) (cs : List Clause) (c : Clause) :
    replay e (cs ++ [c]) = replay e cs ++ [.extend (some cs.length) c] := by
  simp [replay, List.mapIdx_append]

theorem length_replay (e : Entry) (cs : List Clause) : (replay e cs).length = cs.length + 1 := by
  simp [replay]

theorem replay_run (g : Gateway σ) (γ : σ) (e : Entry) (cs : List Clause) :
    draft? (run g (init γ) (replay e cs)) cs.length = e.build? cs := by
  induction cs using List.reverseRecOn with
  | nil => rfl
  | append_singleton cs c ih =>
    have hl : (replay e cs).length = (cs ++ [c]).length := by simp [length_replay]
    rw [draft?_run, replay_snoc, ← hl, List.getElem?_concat_length, List.take_left, build?_snoc, ← ih]
    rfl

/-- later steps leave the drafts as they are -/
theorem draft?_append (g : Gateway σ) (γ : σ) (steps later : List Step) {n : Nat} (h : n < steps.length) :
    draft? (run g (init γ) (steps ++ later)) n = draft? (run g (init γ) steps) n := by
  rw [← draft?_take g γ (steps ++ later) h, List.take_left]

/-! ## Trails -/

/-- for each step the draft that it makes and the request that it sends -/
def trail (g : Gateway σ) (st : St σ) : List Step → List (Option Draft × Option (Kind × String))
  | [] => []
  | s :: steps => (made? st s, (executed? st s).map Draft.request) :: trail g (step g st s) steps

theorem length_trail (g : Gateway σ) (st : St σ) (steps : List Step) : (trail g st steps).length = steps.length := by
  induction steps generalizing st with
  | nil => rfl
  | cons s steps ih => simp [trail, ih]

theorem drafts_run (g : Gateway σ) (st : St σ) (steps : List Step) :
    (run g st steps).drafts = st.drafts ++ (trail g st steps).map Prod.fst := by
  induction steps generalizing st with
  | nil => simp [run, trail]
  | cons s steps ih => simp [run_cons, ih, step_drafts, trail]

theorem requests_run (g : Gateway σ) (st : St σ) (steps : List Step) :
    requests (run g st steps) = requests st ++ (trail g st steps).map Prod.snd := by
  induction steps generalizing st with
  | nil => simp [run, trail]
  | cons s steps ih => simp [run_cons, ih, step_requests, trail]

/-! ## Chains -/

/-- a call of a chain; it names its receiver by the number that its step has where the chain runs alone -/
inductive Move where
  | start (e : Entry)
  | extend (on : Nat) (c : Clause)
  | inspect (on : Nat)
  | execute (on : Nat)
deriving Repr, Inhabited

/-- the move in a session that numbers the steps otherwise -/
def Move.step (number : Nat → Nat) : Move → Step
  | .start e => .start e
  | .extend on c => .extend (some (number on)) c
  | .inspect on => .inspect (some (number on))
  | .execute on => .execute (some (number on))

def alone (moves : List Move) : List Step := moves.map (Move.step id)

section Woven

variable {ι α : Type} [DecidableEq ι]

/-- what belongs to one chain, in its order -/
def own (i : ι) (l : List (ι × α)) : List α := (l.filter (·.1 = i)).map Prod.snd

/-- The moves of several chains in the order of the list. `known i` lists the numbers, in this session, of the steps
that chain `i` can name; `next` is the number of the step to come, which stands for what is not there. -/
def weave (next : Nat) (known : ι → List Nat) : List (ι × Move) → List Step
  | [] => []
  | (i, m) :: l =>
    m.step (fun n => (known i)[n]?.getD next) :: weave (next + 1) (Function.update known i (known i ++ [next])) l

/-- steps that all chains know, and then the chains woven together -/
def interleave (base : List Step) (l : List (ι × Move)) : List Step :=
  base ++ weave base.length (fun _ => List.range base.length) l

theorem own_cons (i j : ι) (x : α) (l : List (ι × α)) : own i ((j, x) :: l) = if j = i then x :: own i l else own i l := by
  by_cases h : j = i <;> simp [own, h]

theorem own_map_snd {β : Type} (f : α → β) (i : ι) (labels : List ι) (xs : List α) :
    own i (labels.zip (xs.map f)) = (own i (labels.zip xs)).map f := by
  rw [own, own, List.zip_map_right, List.filter_map, List.map_map, List.map_map]
  rfl

/-- two lists with the same own part of every chain differ in their order alone -/
theorem perm_of_own {l₁ l₂ : List (ι × α)} (h : ∀ i, own i l₁ = own i l₂) : l₁.Perm l₂ := by
  classical
  have hcount : ∀ (l : List (ι × α)) (p : ι × α), l.count p = (own p.1 l).count p.2 := fun l p => by
    induction l with
    | nil => rfl
    | cons q l ih =>
      rw [own_cons, List.count_cons, ih]
      by_cases hq : q.1 = p.1
      · simp [hq, List.count_cons, Prod.ext_iff]
      · simp [hq, Prod.ext_iff]
  exact List.perm_iff_count.2 fun p => by rw [hcount, hcount, h]

/-! ## The invariant of woven chains -/

/-- the chain alone has made, in `t`, the drafts of the steps that it knows in `st` -/
structure Tracks (st : St σ) (known : List Nat) (t : St τ) : Prop where
  drafts : t.drafts = known.map (draft? st)
  below : ∀ n ∈ known, n < st.drafts.length

theorem Tracks.receiver? {st : St σ} {known : List Nat} {t : St τ} (h : Tracks st known t) (n : Nat) :
    receiver? st (some (known[n]?.getD st.drafts.length)) = receiver? t (some n) := by
  rw [Session.receiver?, Session.receiver?, h.drafts, List.getElem?_map]
  cases known[n]? with
  | none => simp
  | some k => rfl

/-- a move has the same effect where its chain is woven in -/
theorem Tracks.effect {st : St σ} {known : List Nat} {t : St τ} (h : Tracks st known t) (m : Move) :
    made? st (m.step fun n => known[n]?.getD st.drafts.length) = made? t (m.step id) ∧
      executed? st (m.step fun n => known[n]?.getD st.drafts.length) = executed? t (m.step id) := by
  cases m with
  | start | inspect => exact ⟨rfl, rfl⟩
  | extend on c => exact ⟨by simp only [Move.step, made?, h.receiver?, id], rfl⟩
  | execute on => exact ⟨rfl, by simp only [Move.step, executed?, h.receiver?, id]⟩

theorem draft?_step (g : Gateway σ) (st : St σ) (s : Step) {n : Nat} (h : n < st.drafts.length) :
    draft? (step g st s) n = draft? st n := by
  rw [draft?, step_drafts, List.getElem?_append_left h, draft?]

theorem draft?_step_new (g : Gateway σ) (st : St σ) (s : Step) :
    draft? (step g st s) st.drafts.length = made? st s := by
  simp [draft?, step_drafts]

/-- a step of another chain -/
theorem Tracks.step_other {st : St σ} {known : List Nat} {t : St τ} (h : Tracks st known t) (g : Gateway σ) (s : Step) :
    Tracks (step g st s) known t where
  drafts := h.drafts.trans (List.map_congr_left fun n hn => (draft?_step g st s (h.below n hn)).symm)
  below n hn := by
    rw [step_drafts, List.length_append]
    exact Nat.lt_add_right _ (h.below n hn)

/-- a step of the chain itself -/
theorem Tracks.step_own {st : St σ} {known : List Nat} {t : St τ} (h : Tracks st known t) (g : Gateway σ)
    (g' : Gateway τ) {s s' : Step} (hs : made? st s = made? t s') :
    Tracks (step g st s) (known ++ [st.drafts.length]) (step g' t s') where
  drafts := by
    rw [step_drafts, List.map_append, ← (h.step_other g s).drafts, List.map_singleton, draft?_step_new, hs]
  below n hn := by
    rw [step_drafts, List.length_append]
    rcases List.mem_append.1 hn with hn | hn
    · exact Nat.lt_add_right _ (h.below n hn)
    · rw [List.mem_singleton] at hn
      simp [hn]

/-- **Chains woven together.** If each chain is tracked, each makes and sends what it makes and sends alone. -/
theorem own_trail_weave (g : Gateway σ) (g' : Gateway τ) {st : St σ} {known : ι → List Nat} {t : ι → St τ}
    (h : ∀ i, Tracks st (known i) (t i)) (l : List (ι × Move)) (i : ι) :
    own i ((l.map Prod.fst).zip (trail g st (weave st.drafts.length known l))) = trail g' (t i) (alone (own i l)) := by
  induction l generalizing st known t with
  | nil => rfl
  | cons p l ih =>
    obtain ⟨j, m⟩ := p
    obtain ⟨hmade, hexec⟩ := (h j).effect m
    set s := m.step fun n => (known j)[n]?.getD st.drafts.length
    have hlen : (step g st s).drafts.length = st.drafts.length + 1 := by simp [step_drafts]
    have hnext : ∀ k, Tracks (step g st s) (Function.update known j (known j ++ [st.drafts.length]) k)
        (Function.update t j (step g' (t j) (m.step id)) k) := by
      intro k
      by_cases hk : k = j
      · subst hk
        rw [Function.update_self, Function.update_self]
        exact (h k).step_own g g' hmade
      · rw [Function.update_of_ne hk, Function.update_of_ne hk]
        exact (h k).step_other g s
    have hrest := ih hnext
    rw [hlen] at hrest
    rw [List.map_cons, weave, trail, List.zip_cons_cons, own_cons, own_cons, hrest]
    split_ifs with hj
    · subst hj
      change _ = trail g' (t j) (m.step id :: alone (own j l))
      rw [Function.update_self, trail, ← hmade, ← hexec]
    · rw [Function.update_of_ne (Ne.symm hj)]

/-! ## Two orders of the same chains -/

/-- the drafts of chain `i`, one place for each of its moves -/
def draftsOf (i : ι) (base : List Step) (l : List (ι × Move)) (st : St σ) : List (Option Draft) :=
  own i ((l.map Prod.fst).zip (st.drafts.drop base.length))

/-- what the gateway received from chain `i` -/
def sentBy (i : ι) (base : List Step) (l : List (ι × Move)) (st : St σ) : List (Kind × String) :=
  (own i ((l.map Prod.fst).zip ((requests st).drop base.length))).reduceOption

/-- each chain knows the steps before all chains -/
theorem tracks_base (g : Gateway σ) (γ : σ) (g' : Gateway τ) (γ' : τ) (base : List Step) :
    Tracks (run g (init γ) base) (List.range base.length) (run g' (init γ') base) where
  drafts := by
    rw [← (run_congr g γ g' γ' base).1]
    refine List.ext_getElem (by simp [length_drafts]) fun n hn _ => ?_
    simp [draft?, hn]
  below n hn := by
    rw [length_drafts]
    exact List.mem_range.1 hn

theorem length_weave (next : Nat) (known : ι → List Nat) (l : List (ι × Move)) :
    (weave next known l).length = l.length := by
  induction l generalizing next known with
  | nil => rfl
  | cons p l ih => simp [weave, ih]

/-- the part of an interleaving behind its base -/
def woven (g : Gateway σ) (γ : σ) (base : List Step) (l : List (ι × Move)) :
    List (Option Draft × Option (Kind × String)) :=
  trail g (run g (init γ) base) (weave base.length (fun _ => List.range base.length) l)

theorem own_woven (g : Gateway σ) (γ : σ) (g' : Gateway τ) (γ' : τ) (base : List Step) (l : List (ι × Move)) (i : ι) :
    own i ((l.map Prod.fst).zip (woven g γ base l)) = trail g' (run g' (init γ') base) (alone (own i l)) := by
  have h := own_trail_weave g g' (fun _ => tracks_base g γ g' γ' base) l i
  rwa [length_drafts] at h

theorem drafts_interleave (g : Gateway σ) (γ : σ) (base : List Step) (l : List (ι × Move)) :
    (run g (init γ) (interleave base l)).drafts.drop base.length = (woven g γ base l).map Prod.fst := by
  rw [interleave, run_append, drafts_run, List.drop_left' (length_drafts g γ base), woven]

theorem requests_interleave (g : Gateway σ) (γ : σ) (base : List Step) (l : List (ι × Move)) :
    requests (run g (init γ) (interleave base l)) =
      requests (run g (init γ) base) ++ (woven g γ base l).map Prod.snd := by
  rw [interleave, run_append, requests_run, woven]

theorem draftsOf_interleave (g : Gateway σ) (γ : σ) (g' : Gateway τ) (γ' : τ) (base : List Step)
    (l : List (ι × Move)) (i : ι) :
    draftsOf i base l (run g (init γ) (interleave base l)) =
      (trail g' (run g' (init γ') base) (alone (own i l))).map Prod.fst := by
  rw [draftsOf, drafts_interleave, own_map_snd, own_woven g γ g' γ']

theorem sentBy_interleave (g : Gateway σ) (γ : σ) (g' : Gateway τ) (γ' : τ) (base : List Step)
    (l : List (ι × Move)) (i : ι) :
    sentBy i base l (run g (init γ) (interleave base l)) =
      ((trail g' (run g' (init γ') base) (alone (own i l))).map Prod.snd).reduceOption := by
  have hlen : (requests (run g (init γ) base)).length = base.length := length_run rfl (step_requests g) base
  rw [sentBy, requests_interleave, List.drop_left' hlen, own_map_snd, own_woven g γ g' γ']

/-- **One chain alone.** It makes the drafts and sends the requests that it makes and sends where it is woven in. -/
theorem chain_alone (g : Gateway σ) (γ : σ) (g' : Gateway τ) (γ' : τ) (base : List Step) (l : List (ι × Move))
    (i : ι) :
    let s := run g (init γ) (interleave base l)
    let b := run g' (init γ') base
    let t := run g' (init γ') (base ++ alone (own i l))
    t.drafts = b.drafts ++ draftsOf i base l s ∧ t.sent = b.sent ++ sentBy i base l s := by
  intro s b t
  have ht : t = run g' b (alone (own i l)) := run_append g' (init γ') base (alone (own i l))
  constructor
  · rw [ht, drafts_run, draftsOf_interleave g γ g' γ']
  · have hsent : t.sent = (requests t).reduceOption := sent_run g' γ' _
    rw [hsent, ht, requests_run, List.reduceOption_append, sentBy_interleave g γ g' γ', ← sent_run]

/-- **Two orders of the same chains.** If no chain sees its own moves in another order, every chain makes the same drafts
and sends the same requests in the same order, and the gateways receive the same requests in some order. -/
theorem interleavings_agree (g : Gateway σ) (γ : σ) (g' : Gateway τ) (γ' : τ) (base : List Step)
    {l₁ l₂ : List (ι × Move)} (h : ∀ i, own i l₁ = own i l₂) :
    let s₁ := run g (init γ) (interleave base l₁)
    let s₂ := run g' (init γ') (interleave base l₂)
    (∀ i, draftsOf i base l₁ s₁ = draftsOf i base l₂ s₂) ∧ (∀ i, sentBy i base l₁ s₁ = sentBy i base l₂ s₂) ∧
      s₁.sent.Perm s₂.sent := by
  intro s₁ s₂
  refine ⟨fun i => ?_, fun i => ?_, ?_⟩
  · rw [draftsOf_interleave g γ g' γ', draftsOf_interleave g' γ' g' γ', h]
  · rw [sentBy_interleave g γ g' γ', sentBy_interleave g' γ' g' γ', h]
  · have hown : ∀ i, own i ((l₁.map Prod.fst).zip (woven g γ base l₁)) =
        own i ((l₂.map Prod.fst).zip (woven g' γ' base l₂)) := fun i => by
      rw [own_woven g γ g' γ', own_woven g' γ' g' γ', h]
    have hperm := (perm_of_own hown).map Prod.snd
    rw [List.map_snd_zip (by simp [woven, length_trail, length_weave]),
      List.map_snd_zip (by simp [woven, length_trail, length_weave])] at hperm
    rw [sent_run, sent_run, requests_interleave, requests_interleave, (run_congr g γ g' γ' base).2]
    exact ((hperm.map Prod.snd).append_left _).filterMap id

end Woven

/-- **Branches do not interfere.** The draft of any step is that of its own lineage, replayed alone on another session,
and every draft has a lineage; what comes later leaves it as it is. If several chains are woven together behind steps
that all of them know, then each makes the drafts and sends the requests that it makes and sends alone. So in two orders
that keep the order of each chain, the gateways receive the same requests up to order, and of every chain in the same
order. The answers do not matter. -/
theorem branches_independent (g : Gateway σ) (γ : σ) (g' : Gateway τ) (γ' : τ) :
    (∀ steps n d, draft? (run g (init γ) steps) n = some d → ∃ e cs, Lineage g γ steps n e cs) ∧
    (∀ steps n e cs, Lineage g γ steps n e cs →
      draft? (run g (init γ) steps) n = draft? (run g' (init γ') (replay e cs)) cs.length) ∧
    (∀ steps later n, n < steps.length →
      draft? (run g (init γ) (steps ++ later)) n = draft? (run g (init γ) steps) n) ∧
    (∀ (ι : Type) [DecidableEq ι] (base : List Step) (l : List (ι × Move)) (i : ι),
      let s := run g (init γ) (interleave base l)
      let b := run g' (init γ') base
      let t := run g' (init γ') (base ++ alone (own i l))
      t.drafts = b.drafts ++ draftsOf i base l s ∧ t.sent = b.sent ++ sentBy i base l s) ∧
    ∀ (ι : Type) [DecidableEq ι] (base : List Step) (l₁ l₂ : List (ι × Move)), (∀ i, own i l₁ = own i l₂) →
      let s₁ := run g (init γ) (interleave base l₁)
      let s₂ := run g' (init γ') (interleave base l₂)
      (∀ i, draftsOf i base l₁ s₁ = draftsOf i base l₂ s₂) ∧ (∀ i, sentBy i base l₁ s₁ = sentBy i base l₂ s₂) ∧
        s₁.sent.Perm s₂.sent := by
  refine ⟨fun steps n d h => exists_lineage h, fun steps n e cs h => ?_, fun steps later n h => ?_,
    fun ι _ base l i => chain_alone g γ g' γ' base l i, fun ι _ base l₁ l₂ h => interleavings_agree g γ g' γ' base h⟩
  · rw [lineage_draft h, replay_run]
  · exact draft?_append g γ steps later h

/-- two chains on one DELETE, in turns against a gateway that fails and one after the other against one that does not -/
theorem branches_independent_of_turns :
    let base : List Step := [.start (.delete "t")]
    let turns : List (Bool × Move) :=
      [(true, .extend 0 (.where "a=1")), (false, .extend 0 (.limit 1)), (true, .execute 1), (false, .execute 1)]
    let rounds : List (Bool × Move) :=
      [(false, .extend 0 (.limit 1)), (false, .execute 1), (true, .extend 0 (.where "a=1")), (true, .execute 1)]
    let s₁ := run .scripted (init [.error .poolClosed]) (interleave base turns)
    let s₂ := run .scripted (init []) (interleave base rounds)
    draft? s₁ 1 = draft? (run .scripted (init []) (replay (.delete "t") [.where "a=1"])) 1 ∧
      draft? s₁ 1 = draft? (run .scripted (init [.error .poolClosed]) (replay (.delete "t") [.where "a=1"])) 1 ∧
      (∃ e cs, Lineage .scripted [.error .poolClosed] (interleave base turns) 2 e cs) ∧
      (∀ i, draftsOf i base turns s₁ = draftsOf i base rounds s₂) ∧
      (∀ i, sentBy i base turns s₁ = sentBy i base rounds s₂) ∧ s₁.sent.Perm s₂.sent ∧
      s₁.sent = [(.delete, "DELETE FROM t WHERE a=1"), (.delete, "DELETE FROM t LIMIT 1")] ∧
      s₂.sent = [(.delete, "DELETE FROM t LIMIT 1"), (.delete, "DELETE FROM t WHERE a=1")] := by
  intro base turns rounds s₁ s₂
  obtain ⟨hlineage, hreplay, hlater, -, horders⟩ := branches_independent .scripted [.error .poolClosed] .scripted []
  have hl : Lineage .scripted [.error .poolClosed] (interleave base turns) 1 (.delete "t") [.where "a=1"] :=
    .extend rfl (.number Nat.zero_lt_one) (.start rfl)
  have hlimit : draft? s₁ 2 = some ⟨.limited, .delete, "DELETE FROM t LIMIT 1"⟩ := rfl
  obtain ⟨hdrafts, hsent, hperm⟩ := horders Bool base turns rounds fun i => by cases i <;> rfl
  exact ⟨hreplay _ 1 _ _ hl, hlater (replay (.delete "t") [.where "a=1"]) _ 1 Nat.one_lt_two, hlineage _ 2 _ hlimit,
    hdrafts, hsent, hperm, rfl, rfl⟩

end FluentSql.Session
