/-
A run of builder calls and executions against one gateway.

Every step begins a statement, extends a draft, shows one or executes one; the drafts made so far stay available, and a
step names the one it acts on by the number of the step that made it (`receiver?`). A step whose receiver does not
exist, or does not offer the call, is refused and changes nothing. Only an execution reaches the gateway (`sent` lists
what it received) and leaves an event in the log (`events`).
-/
import FluentSql.Gateway
import FluentSql.Statement.Draft
import FluentSql.Trace

namespace FluentSql.Session

/-! ## Model -/

/-- one call; `on` is the number of the step that made the receiver, the latest draft if there is none -/
inductive Step where
  | start (e : Entry)
  | extend (on : Option Nat) (c : Clause)
  | inspect (on : Option Nat)
  | execute (on : Option Nat)
deriving Repr, Inhabited

/-- what a step gives -/
inductive Report where
  | drafted (d : Draft)
  | shown (text : String)
  | ran (s : Statement) (o : Outcome)
  | refused
deriving Repr, Inhabited

/-- what a step leaves in the log: an execution its statement, anything else nothing -/
def Report.event? : Report → Option Event
  | .ran s _ => some (.executing s)
  | _ => none

structure St (σ : Type) where
  gateway : σ
  /-- for each step the draft it made, if it made one -/
  drafts : List (Option Draft)
  reports : List Report
  /-- what the gateway received -/
  sent : List (Kind × String)
deriving Repr

variable {σ : Type}

/-- the log of all steps, in their order -/
def St.events (st : St σ) : List Event := st.reports.filterMap Report.event?

def init (gateway : σ) : St σ := ⟨gateway, [], [], []⟩

def receiver? (st : St σ) : Option Nat → Option Draft
  | some n => (st.drafts[n]?).join
  | none => st.drafts.reverse.findSome? id

/-! ## Steps -/

/-- a step that sends nothing -/
def record (st : St σ) (draft : Option Draft) (report : Report) : St σ :=
  { st with drafts := st.drafts ++ [draft], reports := st.reports ++ [report] }

def refuse (st : St σ) : St σ := record st none .refused

def send (g : Gateway σ) (st : St σ) (s : Statement) : St σ :=
  let (outcome, gateway) := g.execute s.kind s.text st.gateway
  record { st with gateway := gateway, sent := st.sent ++ [(s.kind, s.text)] } none (.ran s outcome)

def step (g : Gateway σ) (st : St σ) : Step → St σ
  | .start e => record st (some e.draft) (.drafted e.draft)
  | .extend on c =>
    match (receiver? st on).bind (·.extend? c) with
    | none => refuse st
    | some d => record st (some d) (.drafted d)
  | .inspect on =>
    match receiver? st on with
    | none => refuse st
    | some d => record st none (.shown d.inspect)
  | .execute on =>
    match (receiver? st on).filter (·.stage.isComplete) with
    | none => refuse st
    | some d => send g st d.statement

def run (g : Gateway σ) (st : St σ) (steps : List Step) : St σ := steps.foldl (step g) st

end FluentSql.Session
