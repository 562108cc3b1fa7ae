/-
ClusterBackup.Proofs.Workflow.Run — how a workflow runs on a client.

The equations `run_ask` and its kin take a run apart call by call;
reporting an outcome changes neither the outcome nor the client, and is the
only report if the workflow is silent otherwise.

A client may depend on what lies outside of it: the clock, the files that
it can see. `Client.overTime` lets these be different at each call of a
run, so a statement about it covers every way in which they may change.
-/
import ClusterBackup.Status

namespace ClusterBackup

/-- A client that is another one at each call: the state counts the calls so far. -/
def Client.overTime {σ : Type} (clients : Nat → Client σ) : Client (σ × Nat) where
  name := (clients 0).name
  answer call p :=
    let (answer, s) := (clients p.2).answer call p.1
    (answer, (s, p.2 + 1))

@[simp] theorem Client.answer_overTime {σ : Type} (clients : Nat → Client σ) (call : AdminCall)
    (s : σ) (n : Nat) :
    (overTime clients).answer call (s, n) =
      (((clients n).answer call s).1, ((clients n).answer call s).2, n + 1) := rfl

namespace Workflow

variable {α β σ : Type} (client : Client σ)

/-! ## Runs, call by call -/

@[simp] theorem bind_eq (w : Workflow α) (f : α → Workflow β) : w >>= f = w.bind f := rfl

@[simp] theorem done_bind (a : α) (f : α → Workflow β) : (done a).bind f = f a := rfl

@[simp] theorem ask_bind (c : AdminCall) (next : Except Error c.Answer → Workflow α)
    (f : α → Workflow β) : (ask c next).bind f = ask c fun answer => (next answer).bind f := rfl

/-- It does not matter how what comes one after another is put together. -/
theorem bind_assoc {γ : Type} (w : Workflow α) (f : α → Workflow β) (g : β → Workflow γ) :
    (w.bind f).bind g = w.bind fun a => (f a).bind g := by
  induction w with
  | done a => rfl
  | ask c next ih => exact congrArg (ask c) (funext ih)
  | tell report next ih => exact congrArg (tell report) ih

@[simp] theorem pure_eq_done (a : α) : (pure a : Workflow α) = done a := rfl

@[simp] theorem run_done (a : α) (s : σ) : (done a).run client s = ⟨a, [], s⟩ := rfl

@[simp] theorem run_ask (c : AdminCall) (next : Except Error c.Answer → Workflow α) (s : σ) :
    (ask c next).run client s =
      (next (client.answer c s).1).run client (client.answer c s).2 := rfl

/-- A workflow goes on from where its first part left the client. -/
theorem run_bind (w : Workflow α) (f : α → Workflow β) (s : σ) :
    (w.bind f).run client s =
      let first := w.run client s
      let rest := (f first.result).run client first.state
      { rest with reports := first.reports ++ rest.reports } := by
  induction w generalizing s with
  | done a => rfl
  | ask c next ih => exact ih _ _
  | tell report next ih =>
    change { (next.bind f).run client s with
      reports := report :: ((next.bind f).run client s).reports } = _
    rw [ih]
    rfl

/-! ## Reports -/

/-- Reporting an outcome does not change it. -/
@[simp] theorem result_reported (w : Workflow Outcome) (s : σ) :
    (w.reported.run client s).result = (w.run client s).result := by
  rw [reported, bind_eq, run_bind]
  rfl

/-- Reporting an outcome leaves the client alone. -/
@[simp] theorem state_reported (w : Workflow Outcome) (s : σ) :
    (w.reported.run client s).state = (w.run client s).state := by
  rw [reported, bind_eq, run_bind]
  rfl

/-- A workflow that tells its watchers nothing, whatever it is answered. -/
def Silent : Workflow α → Prop
  | done _ => True
  | ask _ next => ∀ answer, (next answer).Silent
  | tell _ _ => False

theorem silent_call (c : AdminCall) : (call c).Silent := fun _ => trivial

theorem Silent.bind {w : Workflow α} {f : α → Workflow β} (silent : w.Silent)
    (rest : ∀ a, (f a).Silent) : (w >>= f).Silent := by
  rw [bind_eq]
  induction w with
  | done a => exact rest a
  | ask c next ih => exact fun answer => ih answer (silent answer)
  | tell report next ih => cases silent

theorem reports_of_silent {w : Workflow α} (silent : w.Silent) (s : σ) :
    (w.run client s).reports = [] := by
  induction w generalizing s with
  | done a => rfl
  | ask c next ih => exact ih _ (silent _) _
  | tell report next ih => cases silent

/-- A workflow that tells nothing by itself is reported once, with the outcome that it ends in. -/
theorem reports_reported {w : Workflow Outcome} (silent : w.Silent) (s : σ) :
    (w.reported.run client s).reports = [Report.ofOutcome (w.run client s).result] := by
  simp [reported, run_bind, reports_of_silent client silent, run]

end Workflow

end ClusterBackup
