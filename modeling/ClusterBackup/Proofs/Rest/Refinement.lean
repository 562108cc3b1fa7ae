/-
ClusterBackup.Proofs.Rest.Refinement — posting a job is running it.

A request that posts a job as JSON is read back as the job that was
written, and handling it is running that job: the cluster ends up in the
same state, and the reply is the outcome in JSON, from which the outcome
can be read back. `Mirrors` is what a caller may rely on, and
`posting_is_running` says that it holds of both kinds of jobs.

The status of a reply follows from the kind of the outcome alone, since an
outcome is a success exactly if it has no kind. Two of the statuses tell of
a refusal, and a refusal changes nothing.
-/
import ClusterBackup.Proofs.Invocation.Json
import ClusterBackup.Proofs.Outcome.Json
import ClusterBackup.Proofs.Outcome.WellFormed
import ClusterBackup.Proofs.Rest.Jobs
import ClusterBackup.Proofs.Simulated.Refusals

namespace ClusterBackup.Rest

open Simulated (Cluster)

/-! ## Posting a job -/

/-- The request that posts a job as JSON. -/
def posting {S : Type} [FlatSpec S] (target : String) (r : JobRequest S) : Request :=
  ⟨"POST", target, some "application/json", r.toJson.write⟩

/-- A job that was posted is read as it was written, unless it is too long. -/
theorem readBody_posting {S : Type} [FlatSpec S] [LawfulFlatSpec S] (target : String)
    {r : JobRequest S} (small : r.toJson.write.utf8ByteSize ≤ maxBodySize) :
    readBody JobRequest.read (posting target r) = .ok r := by
  have type : isJsonType (some "application/json") = true := by decide
  have short : ¬ maxBodySize < r.toJson.write.utf8ByteSize := Nat.not_lt.mpr small
  have scanned := Json.scan_write r.numberless_toJson
  simp only [readBody, posting, type, Bool.not_true, Bool.false_eq_true, if_false, short, scanned,
    r.read_toJson]

theorem job?_posting_backup {r : JobRequest BackupSpec}
    (small : r.toJson.write.utf8ByteSize ≤ maxBodySize) :
    (posting "/v1/backups" r).job? = some (.backup, .runBackup r) := by
  have path : Route.ofPath? (pathOf "/v1/backups") = some .backups := by decide
  rw [job?_of_route (r := posting _ r) path rfl, Route.job?, readBody_posting _ small]

theorem job?_posting_restore {r : JobRequest RestoreSpec}
    (small : r.toJson.write.utf8ByteSize ≤ maxBodySize) :
    (posting "/v1/restores" r).job? = some (.restore, .runRestore r) := by
  have path : Route.ofPath? (pathOf "/v1/restores") = some .restores := by decide
  rw [job?_of_route (r := posting _ r) path rfl, Route.job?, readBody_posting _ small]

/-! ## The reply -/

/-- The status of an outcome that is a success exactly if it has no kind. -/
theorem statusOf_eq {o : Outcome} (known : o.success = true ↔ o.kind = none) :
    statusOf o =
      match o.kind with
      | none => 200
      | some .invalidArgument => 400
      | some .preconditionFailed => 409
      | some .clusterOperationFailed | some .transportFailure => 502 := by
  cases kind : o.kind with
  | none => rw [statusOf, if_pos (known.mpr kind)]
  | some k =>
    have failure : ¬ o.success = true := by simp [known, kind]
    rw [statusOf, if_neg failure, kind]
    cases k <;> rfl

/-- Handling a request does to a cluster what a run does, and the reply tells what came of it. -/
structure Mirrors (s : Cluster) (handled : Workflow.Run (Reply × Metrics) (Cluster × Nat))
    (run : Workflow.Run Outcome (Cluster × Nat)) : Prop where
  /-- The cluster is left as the run leaves it. -/
  state : handled.state = run.state
  contentType : handled.result.1.contentType = some "application/json"
  /-- The outcome can be read back from the body. -/
  body : Json.readText Outcome.read handled.result.1.body = .ok run.result
  status_ok : handled.result.1.status = 200 ↔ run.result.success = true
  status_conflict : handled.result.1.status = 409 ↔ run.result.kind = some .preconditionFailed
  status_badRequest : handled.result.1.status = 400 ↔ run.result.kind = some .invalidArgument
  status_badGateway : handled.result.1.status = 502 ↔ run.result.success = false ∧
    run.result.kind ≠ some .preconditionFailed ∧ run.result.kind ≠ some .invalidArgument
  /-- What is refused changes nothing. -/
  untouched : handled.result.1.status = 400 ∨ handled.result.1.status = 409 →
    handled.state.1.collections = s.collections ∧ handled.state.1.backups = s.backups ∧
      handled.state.1.jobs = s.jobs

/-- Every request for a job mirrors the run of its entry, if its reply has a body. -/
theorem mirrors_of_job {request : Request} {operation : Operation} {entry : Entry}
    (job : request.job? = some (operation, entry)) (bodied : request.method ≠ "HEAD")
    (clock : Nat → DateTime) (m : Metrics) (s : Cluster) :
    let cluster := Client.overTime fun n => Simulated.client (clock n)
    Mirrors s ((handle m request).run cluster (s, 0)) (entry.workflow.run cluster (s, 0)) := by
  intro cluster
  obtain ⟨result, state⟩ := run_of_job (m := m) cluster job (s, 0)
  have known := (entry.course cluster (s, 0)).settles.wellFormed.success_iff
  have refusal := Simulated.sameButLog_of_refusal clock entry s
  generalize entry.workflow.run cluster (s, 0) = run at result state known refusal
  have reply : ((handle m request).run cluster (s, 0)).result.1 = .ofOutcome run.result := by
    rw [result, Request.replyTo, if_neg bodied]
  have status : ((handle m request).run cluster (s, 0)).result.1.status = _ :=
    (congrArg Reply.status reply).trans (statusOf_eq known)
  have badRequest : ((handle m request).run cluster (s, 0)).result.1.status = 400 ↔
      run.result.kind = some .invalidArgument := by
    rw [status]
    rcases run.result.kind with _ | _ | _ | _ | _ <;> simp
  have conflict : ((handle m request).run cluster (s, 0)).result.1.status = 409 ↔
      run.result.kind = some .preconditionFailed := by
    rw [status]
    rcases run.result.kind with _ | _ | _ | _ | _ <;> simp
  exact {
    state := state
    contentType := congrArg Reply.contentType reply
    body := by
      rw [reply]
      exact run.result.readText_write
    status_ok := by
      rw [status, known]
      rcases run.result.kind with _ | _ | _ | _ | _ <;> simp
    status_conflict := conflict
    status_badRequest := badRequest
    status_badGateway := by
      rw [status, ← Bool.not_eq_true, known]
      rcases run.result.kind with _ | _ | _ | _ | _ <;> simp
    untouched := fun refused => by
      rw [badRequest, conflict] at refused
      obtain ⟨calls, faults, same⟩ := refusal refused
      rw [state, same]
      exact ⟨rfl, rfl, rfl⟩ }

/-! ## Posting and running -/

/-- **Posting a job is running it**: a backup or a restore, or the query for the status of one, with
any texts in it, on a simulated cluster in any state. The cluster is left as the run leaves it, and
the reply is the outcome of the run under the status that goes with it. -/
theorem posting_is_running (clock : Nat → DateTime) (m : Metrics) (s : Cluster) :
    let cluster := Client.overTime fun n => Simulated.client (clock n)
    (∀ r : JobRequest BackupSpec, r.toJson.write.utf8ByteSize ≤ maxBodySize →
      Mirrors s ((handle m (posting "/v1/backups" r)).run cluster (s, 0))
        ((Backup.run r).run cluster (s, 0))) ∧
    ∀ r : JobRequest RestoreSpec, r.toJson.write.utf8ByteSize ≤ maxBodySize →
      Mirrors s ((handle m (posting "/v1/restores" r)).run cluster (s, 0))
        ((Restore.run r).run cluster (s, 0)) := by
  intro cluster
  have bodied : "POST" ≠ "HEAD" := by decide
  constructor
  · intro r small
    exact mirrors_of_job (job?_posting_backup small) bodied clock m s
  · intro r small
    exact mirrors_of_job (job?_posting_restore small) bodied clock m s

/-- A restore over a collection that is there, from a location with a quote, a line break and a
letter beyond ASCII in it. -/
def quotedRestore : JobRequest RestoreSpec :=
  .issue { collection := .default, location := some "the \"café\"\nnext door" }

/-- It is refused as a conflict, the refusal can be read back, and the collection stays. -/
theorem posting_is_running_quoted :
    let s := Cluster.default.createCollection "catalog"
    let handled := (handle {} (posting "/v1/restores" quotedRestore)).run
      (.overTime fun _ => Simulated.client Simulated.noon) (s, 0)
    quotedRestore.toJson.write.utf8ByteSize ≤ maxBodySize ∧
      handled.result.1.status = 409 ∧ handled.state.1.collections = s.collections ∧
      Json.readText Outcome.read handled.result.1.body = .ok (Restore.refusal .default) := by
  have small : quotedRestore.toJson.write.utf8ByteSize ≤ maxBodySize := by decide +kernel
  have mirrors := (posting_is_running (fun _ => Simulated.noon) {}
    (Cluster.default.createCollection "catalog")).2 quotedRestore small
  have conflict := mirrors.status_conflict.mpr rfl
  exact ⟨small, conflict, (mirrors.untouched (.inr conflict)).1, mirrors.body⟩

end ClusterBackup.Rest
