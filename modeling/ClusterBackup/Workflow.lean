/-
ClusterBackup.Workflow — programs of calls to a cluster.

A workflow is a tree: it is done, or makes a call and goes on in a way
that depends on the answer, or tells its watchers something. `run` lets a
client answer the calls one after another; `step` makes a single move, so
several workflows can take turns on one cluster.
-/
import ClusterBackup.Admin
import ClusterBackup.Report

namespace ClusterBackup

/-- A program of calls and reports that ends in an `α`. -/
inductive Workflow (α : Type) where
  | done (a : α)
  | ask (call : AdminCall) (next : Except Error call.Answer → Workflow α)
  | tell (report : Report) (next : Workflow α)

namespace Workflow

variable {α β σ : Type}

/-- Goes on with what the workflow ended in. -/
def bind : Workflow α → (α → Workflow β) → Workflow β
  | done a, f => f a
  | ask call next, f => ask call fun answer => (next answer).bind f
  | tell report next, f => tell report (next.bind f)

/-- One call, whose answer is the end. -/
def call (c : AdminCall) : Workflow (Except Error c.Answer) := ask c done

instance : Monad Workflow where
  pure := done
  bind := bind

/-- What a run leaves behind: the end of the workflow, the reports in their order, and the state. -/
structure Run (α σ : Type) where
  result : α
  reports : List Report
  state : σ

/-- Runs the workflow on a client. -/
def run (client : Client σ) : Workflow α → σ → Run α σ
  | done a, s => ⟨a, [], s⟩
  | ask call next, s =>
    let (answer, s) := client.answer call s
    (next answer).run client s
  | tell report next, s =>
    let r := next.run client s
    { r with reports := report :: r.reports }

/-- The next move of a workflow on a client: what remains of it, and the state. -/
def step (client : Client σ) : Workflow α → σ → Workflow α × σ
  | done a, s => (done a, s)
  | ask call next, s =>
    let (answer, s) := client.answer call s
    (next answer, s)
  | tell _ next, s => (next, s)

end Workflow

end ClusterBackup
