/-
ClusterBackup.Proofs.Simulated.Modes — a job comes to the same whether it
is done at once or queued.

Both modes do the same work, in the same place: after the way was cleared
for it. `run_blocked`, `run_sync` and `run_async` say so of the two runs,
each in terms of `Commission.work`. What is left to compare is the way of
the answer: the response becomes an outcome at once, or the record of a
job that is polled to its end.
-/
import ClusterBackup.Proofs.Entry
import ClusterBackup.Proofs.Simulated.Collections
import ClusterBackup.Proofs.Simulated.Findings

namespace ClusterBackup

/-- A job that a caller can have done at once or queued. -/
inductive Commission where
  | backup (spec : BackupSpec)
  | restore (spec : RestoreSpec)

namespace Commission

/-- The errand of having the job done in a mode. -/
def errand (mode : Mode) : Commission → Errand
  | backup spec => .backup { spec with mode }
  | restore spec => .restore { spec with mode }

def operation : Commission → Operation
  | backup _ => .backup
  | restore _ => .restore

def collection : Commission → Collection
  | backup spec => spec.collection
  | restore spec => spec.collection

open Simulated Simulated.Cluster

/-- A restore must not replace a collection unless it is forced. -/
def blocked (s : Cluster) : Commission → Bool
  | backup _ => false
  | restore spec => s.hasCollection spec.collection.name && !spec.force

/-- The cluster once the way is free: a restore has deleted the collection, if there was one. -/
def cleared (s : Cluster) : Commission → Cluster
  | backup _ => s
  | restore spec => (performDelete spec.collection s).2

def work (now : DateTime) (s : Cluster) : Commission → AdminResponse × Cluster
  | backup spec => performBackup now spec.request s
  | restore spec => performRestore spec.request s

/-- The cluster once work was done at once: a restore that succeeded is followed by an
optimization. -/
def completed (done : AdminResponse × Cluster) : Commission → Cluster
  | backup _ => done.2
  | restore spec =>
    if done.1.isSuccess then (performOptimize spec.collection done.2).2 else done.2

theorem desk_cleared (s : Cluster) (c : Commission) : (c.cleared s).desk = s.desk := by
  cases c with
  | backup spec => rfl
  | restore spec => exact desk_performDelete spec.collection s

theorem desk_work (now : DateTime) (s : Cluster) (c : Commission) :
    (c.work now s).2.desk = s.desk := by
  cases c with
  | backup spec => exact desk_performBackup now spec.request s
  | restore spec => exact desk_performRestore spec.request s

end Commission

namespace Simulated

open Cluster

variable (clock : Nat → DateTime) {s : Cluster} {c : Commission}

/-! ## Runs without faults and log -/

theorem answer_unhindered (now : DateTime) (call : AdminCall) (s : Cluster) :
    (unhindered now).answer call s = (.ok (effect now call s).1, (effect now call s).2) := rfl

/-- A job that is blocked is refused in both modes, and nothing else happens. -/
theorem run_blocked (blocked : c.blocked s = true) (mode : Mode) :
    (c.errand mode).workflow.run (.overTime fun n => unhindered (clock n)) (s, 0) =
      ⟨Restore.refusal c.collection, [], (s, 2)⟩ := by
  cases c with
  | backup spec => cases blocked
  | restore spec =>
    rw [Commission.blocked, Bool.and_eq_true, Bool.not_eq_true'] at blocked
    obtain ⟨present, force⟩ := blocked
    simp only [Commission.errand, Errand.workflow, Restore.execute, Workflow.bind_eq, Workflow.call,
      Workflow.ask_bind, Workflow.done_bind, Workflow.run_ask, Client.answer_overTime,
      answer_unhindered, effect, present, force]
    rfl

/-- An optimization finds the collection of the restore that it follows, so there is nothing to
warn of. -/
theorem run_carryOut_sync {spec : RestoreSpec} (sync : spec.mode = .sync) (s : Cluster) (n : Nat) :
    let r :=
      (Restore.carryOut spec spec.request).run (.overTime fun n => unhindered (clock n)) (s, n)
    let done := performRestore spec.request s
    r.result = .ofResponse .restore spec.collection done.1 ∧
      r.state.1 = Commission.completed done (.restore spec) := by
  simp only [Restore.carryOut, sync, Workflow.bind_eq, Workflow.call, Workflow.ask_bind,
    Workflow.done_bind, Workflow.run_ask, Client.answer_overTime, answer_unhindered, effect,
    Commission.completed, Outcome.success_ofResponse]
  cases restored_performRestore spec.request s with
  | refused failure state => simp [failure]
  | made absent success state =>
    have present : (performRestore spec.request s).2.collections.get? spec.collection.name =
        some s.newLayout := by
      rw [state]
      exact (get?_createCollection s _ _).trans (if_pos rfl)
    have optimized : (performOptimize spec.collection (performRestore spec.request s).2).1 =
        .ok := by
      rw [performOptimize, present]
    simp only [success, if_true, Workflow.run_ask, Client.answer_overTime, answer_unhindered,
      effect, optimized]
    exact ⟨rfl, rfl⟩

theorem run_carryOut_async {spec : RestoreSpec} (async : spec.mode = .async) (s : Cluster)
    (n : Nat) :
    let r :=
      (Restore.carryOut spec spec.request).run (.overTime fun n => unhindered (clock n)) (s, n)
    let queued := queue .restore (performRestore spec.request s)
    r.result = .ofSubmission .restore spec.collection queued.1 ∧ r.state.1 = queued.2 := by
  simp only [Restore.carryOut, async]
  exact ⟨rfl, rfl⟩

/-- A restore that is not blocked comes to its end, once the way is free. -/
theorem run_restore (spec : RestoreSpec) (free : (Commission.restore spec).blocked s = false) :
    ∃ n, (Restore.execute spec).run (.overTime fun n => unhindered (clock n)) (s, 0) =
      (Restore.carryOut spec spec.request).run (.overTime fun n => unhindered (clock n))
        ((performDelete spec.collection s).2, n) := by
  simp only [Restore.execute, Workflow.bind_eq, Workflow.call, Workflow.ask_bind,
    Workflow.done_bind, Workflow.run_ask, Client.answer_overTime, answer_unhindered, effect]
  cases present : s.hasCollection spec.collection.name with
  | false =>
    refine ⟨2, ?_⟩
    simp [performDelete, present]
  | true =>
    -- The way is free although there is a collection, so the restore is forced.
    have force : spec.force = true := by simpa [Commission.blocked, present] using free
    refine ⟨3, ?_⟩
    have deleted : performDelete spec.collection s =
        (.ok, { s with collections := s.collections.erase spec.collection.name }) := by
      simp [performDelete, present]
    simp only [force, if_true, Workflow.run_ask, Client.answer_overTime, answer_unhindered, effect,
      deleted]
    rfl

/-- Done at once, a job is answered with what its work comes to. -/
theorem answered_sync (free : c.blocked s = false) :
    let r := (c.errand .sync).workflow.run (.overTime fun n => unhindered (clock n)) (s, 0)
    let done := c.work (clock 0) (c.cleared s)
    r.result = .ofResponse c.operation c.collection done.1 ∧ r.state.1 = c.completed done := by
  cases c with
  | backup spec => exact ⟨rfl, rfl⟩
  | restore spec =>
    obtain ⟨n, run_eq⟩ := run_restore clock { spec with mode := .sync } free
    simp only [Commission.errand, Errand.workflow, run_eq]
    exact run_carryOut_sync clock rfl _ n

/-- Done at once, a job comes to what its work comes to. -/
theorem run_sync (free : c.blocked s = false) :
    let r := (c.errand .sync).workflow.run (.overTime fun n => unhindered (clock n)) (s, 0)
    let done := c.work (clock 0) (c.cleared s)
    r.result.success = done.1.isSuccess ∧ r.result.errors = done.1.errors ∧
      r.state.1 = c.completed done := by
  obtain ⟨answer, state⟩ := answered_sync clock free
  simp only [answer]
  exact ⟨Outcome.success_ofResponse _ _ _, Outcome.errors_ofResponse _ _ _, state⟩

/-- Queued, a job is accepted, and its work is done. -/
theorem run_async (free : c.blocked s = false) :
    let r := (c.errand .async).workflow.run (.overTime fun n => unhindered (clock n)) (s, 0)
    let queued := queue c.operation (c.work (clock 0) (c.cleared s))
    r.result = .ofSubmission c.operation c.collection queued.1 ∧ r.state.1 = queued.2 := by
  cases c with
  | backup spec => exact ⟨rfl, rfl⟩
  | restore spec =>
    obtain ⟨n, run_eq⟩ := run_restore clock { spec with mode := .async } free
    simp only [Commission.errand, Errand.workflow, run_eq]
    exact run_carryOut_async clock rfl _ n

/-- An entry runs on a cluster without faults as its errand does where there is not even a log. -/
theorem run_entry (faultless : s.faults = []) (e : Entry) :
    let r := e.workflow.run (.overTime fun n => client (clock n)) (s, 0)
    let r' := e.errand.workflow.run (.overTime fun n => unhindered (clock n)) (s, 0)
    r.result = r'.result ∧ ∃ calls, r.state.1 = r'.state.1.withLog calls [] := by
  have start : s.withLog s.calls [] = s := by rw [← faultless, withLog_self]
  obtain ⟨calls, run_eq⟩ := run_faultless clock e.errand.workflow s s.calls 0
  rw [start] at run_eq
  simp only [e.workflow_eq, Workflow.result_reported, Workflow.state_reported, run_eq]
  exact ⟨trivial, calls, rfl⟩

/-! ## Two runs of one job -/

/-- Two clusters hold the same, one after a job was done at once and one after it was queued:
a restore that succeeds at once also optimizes its collection. -/
structure SameHoldings (c : Commission) (success : Bool) (atOnce queued : Cluster) : Prop where
  backups : atOnce.backups = queued.backups
  collections :
    if c.operation = .restore ∧ success then
      ∃ l, queued.collections.get? c.collection.name = some l ∧
        atOnce.collections =
          queued.collections.insert c.collection.name { l with optimized := true }
    else atOnce.collections = queued.collections

/-- How a run of a job that is done at once and a run of the same job that is queued agree. -/
inductive Agreement (c : Commission) (s : Cluster)
    (atOnce queued : Workflow.Run Outcome (Cluster × Nat)) : Prop where
  /-- Both are refused. -/
  | refused (blocked : c.blocked s = true) (refusal : atOnce.result = Restore.refusal c.collection)
      (same : queued.result = atOnce.result)
      (jobs : atOnce.state.1.jobs = s.jobs ∧ queued.state.1.jobs = s.jobs)
      (holdings : SameHoldings c false atOnce.state.1 queued.state.1)
  /-- The queued one is accepted under an id. Its first final status comes with the poll that the
  job needs, and tells what the other one came to. -/
  | accepted (free : c.blocked s = false) (id : String) (success : queued.result.success = true)
      (requestId : queued.result.requestId = some id)
      (told : ∀ steps,
        tally (fun s step => (s.queued? step).isSome) queued.state.1 steps < maxTrackedJobs →
        (findings id queued.state.1 steps).find? (·.state.isTerminal) =
          if tally (polls id) queued.state.1 steps
              < finalPoll s.config.simulatedJobPolls.toNat then none
          else some ⟨id, if atOnce.result.success then .completed else .failed,
            atOnce.result.errors, none⟩)
      (holdings : SameHoldings c atOnce.result.success atOnce.state.1 queued.state.1)

/-- Work that is done leaves the same holdings, whether it is completed at once or queued. -/
theorem sameHoldings_of_work (c : Commission) (now : DateTime) (s : Cluster) :
    SameHoldings c (c.work now s).1.isSuccess (c.completed (c.work now s))
      (queue c.operation (c.work now s)).2 := by
  cases c with
  | backup spec => exact ⟨rfl, by rw [if_neg (by simp [Commission.operation])]; rfl⟩
  | restore spec =>
    change SameHoldings _ (performRestore spec.request s).1.isSuccess _ _
    cases restored_performRestore spec.request s with
    | refused failure state =>
      have kept : (Commission.restore spec).completed (performRestore spec.request s) = _ :=
        if_neg (ne_true_of_eq_false failure)
      rw [Commission.work, kept, failure]
      exact ⟨rfl, by rw [if_neg (by simp)]; rfl⟩
    | made absent success state =>
      have present : (performRestore spec.request s).2.collections.get? spec.collection.name =
          some s.newLayout := by
        rw [state]
        exact (get?_createCollection s _ _).trans (if_pos rfl)
      have optimized : (Commission.restore spec).completed (performRestore spec.request s) = _ :=
        if_pos success
      rw [Commission.work, optimized, success, performOptimize, present]
      exact ⟨rfl, by rw [if_pos ⟨rfl, rfl⟩]; exact ⟨s.newLayout, present, rfl⟩⟩

/-- **A job comes to the same whether it is done at once or queued.** -/
theorem modes_agree (reached : Reachable s) (faultless : s.faults = []) {atOnce later : Entry}
    (sync : atOnce.errand = c.errand .sync) (async : later.errand = c.errand .async) :
    Agreement c s (atOnce.workflow.run (.overTime fun n => client (clock n)) (s, 0))
      (later.workflow.run (.overTime fun n => client (clock n)) (s, 0)) := by
  obtain ⟨result, calls, state⟩ := run_entry clock faultless atOnce
  obtain ⟨result', calls', state'⟩ := run_entry clock faultless later
  rw [sync] at result state
  rw [async] at result' state'
  cases blocked : c.blocked s with
  | true =>
    rw [run_blocked clock blocked] at result state result' state'
    refine .refused blocked result (result'.trans result.symm) ?_ ?_
    · rw [state, state']
      exact ⟨rfl, rfl⟩
    · rw [state, state']
      exact ⟨rfl, by rw [if_neg (by simp)]; rfl⟩
  | false =>
    obtain ⟨success, errors, done⟩ := run_sync clock blocked
    obtain ⟨submission, queued⟩ := run_async clock blocked
    rw [← result] at success errors
    rw [done] at state
    rw [queued] at state'
    obtain ⟨id_eq, desk⟩ := queue_eq c.operation
      ((c.desk_work (clock 0) (c.cleared s)).trans (c.desk_cleared s))
    rw [id_eq] at submission
    have outcome := result'.trans submission
    -- From here on only the polls of the job count, and what its work came to.
    have tracked := tracked_of_desk reached.jobTable
      ((congrArg Cluster.desk state').trans ((desk_withLog _ _ _).trans desk))
    have counts : s.config.simulatedJobPolls.toNat ≤ maxPolls :=
      Nat.le_sub_one_of_lt s.config.simulatedJobPolls.toNat_lt
    refine .accepted blocked _ (by rw [outcome]; rfl) (by rw [outcome]; rfl) ?_ ?_
    · intro steps few
      rw [success, errors]
      exact tracked.find?_findings counts steps (by omega)
    · obtain ⟨backups, collections⟩ := sameHoldings_of_work c (clock 0) (c.cleared s)
      rw [success, state, state']
      exact ⟨backups, collections⟩

/-- A restore of a backup that the cluster has: one caller waits for it, the other has it queued. -/
theorem modes_agree_nightly :
    let s := Cluster.after { config := .simulated } [.addBackup none "nightly" "catalog"]
    let spec : RestoreSpec := { collection := .default, backupName := some "nightly" }
    Agreement (.restore spec) s
      ((Entry.runRestore (.issue spec)).workflow.run (.overTime fun _ => client noon) (s, 0))
      ((Entry.restore { spec with mode := .async }).workflow.run
        (.overTime fun _ => client noon) (s, 0)) :=
  modes_agree (fun _ => noon) ⟨_, _, rfl⟩ rfl rfl rfl

end Simulated

end ClusterBackup
