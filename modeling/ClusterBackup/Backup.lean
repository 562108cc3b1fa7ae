/-
ClusterBackup.Backup — taking backups.

A backup is one call: carried out at once, or queued as a job. Every entry
ends in one outcome and one report of it.
-/
import ClusterBackup.Outcome.OfAnswer
import ClusterBackup.Status

namespace ClusterBackup.Backup

/-- Takes the backup, or queues it. -/
def execute (spec : BackupSpec) : Workflow Outcome :=
  match spec.mode with
  | .sync => do
    match ← Workflow.call (.backup spec.request) with
    | .ok r => return Outcome.ofResponse .backup spec.collection r
    | .error e => return Outcome.ofFailure .backup spec.collection e
  | .async => do
    match ← Workflow.call (.submitBackup spec.request) with
    | .ok s => return Outcome.ofSubmission .backup spec.collection s
    | .error e => return Outcome.ofFailure .backup spec.collection e

/-- Issues a backup. -/
def issue (spec : BackupSpec) : Workflow Outcome := (execute spec).reported

/-- Asks about a queued backup. -/
def status (requestId : String) : Workflow Outcome := (JobStatus.query .backup requestId).reported

/-- Carries out a request, whichever of the two it is. -/
def run (request : JobRequest BackupSpec) : Workflow Outcome :=
  (match request.resolve with
    | .ok (.issue spec) => execute spec
    | .ok (.status id) => JobStatus.query .backup id
    | .error e => pure (Outcome.ofError e)).reported

end ClusterBackup.Backup
