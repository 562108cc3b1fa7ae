/-
ClusterBackup.Restore — restoring collections.

A restore settles what it will ask for before it touches anything, so a
request that cannot be met never costs the existing collection. It then
looks whether the collection exists; an existing one is an obstacle, or is
deleted first when the restore is forced. The restore itself is one call,
carried out at once or queued as a job. One that was carried out is
followed by an optimization, of which a failure is no more than a warning.
-/
import ClusterBackup.Outcome.OfAnswer
import ClusterBackup.Status

namespace ClusterBackup.Restore

/-- The message of a restore that would have to replace a collection and was not forced. -/
def existsMessage : String := "collection already exists"

/-- The message of a forced restore whose deletion did not succeed, up to the reason. -/
def deleteFailedMessage : String := "unable to delete existing collection"

/-- The outcome of a restore that stopped at an existing collection. -/
def refusal (c : Collection) : Outcome :=
  .failed (Error.collectionExists c.name).kind existsMessage

/-- The outcome of a restore whose deletion was refused. -/
def deleteRefused (r : AdminResponse) : Outcome :=
  (Outcome.failed .clusterOperationFailed
    (deleteFailedMessage ++ " (status " ++ toString r.status ++ ")"
      ++ (match r.message with
        | some detail => ": " ++ detail
        | none => ""))).withErrors r.errors

/-- The outcome of a restore whose deletion ended in an error. -/
def deleteFailed (e : Error) : Outcome :=
  .failed e.kind (deleteFailedMessage ++ ": " ++ e.cause)

/-- What there is to say about an optimization, if it did not succeed. -/
def optimizeWarning (c : Collection) : Except Error AdminResponse → Option String
  | .ok r =>
    if r.isSuccess then none
    else some ("optimize of [" ++ c.name ++ "] failed with status " ++ toString r.status ++ ".")
  | .error e => some ("optimize of [" ++ c.name ++ "] failed. " ++ e.cause)

/-- The outcome with a warning after its message. -/
def withWarning (o : Outcome) : Option String → Outcome
  | some warning => { o with message := o.message ++ " Warning: " ++ warning }
  | none => o

/-- The restore itself, once the way is free. -/
def carryOut (spec : RestoreSpec) (request : SnapshotRequest) : Workflow Outcome :=
  match spec.mode with
  | .async => do
    match ← Workflow.call (.submitRestore request) with
    | .ok s => return Outcome.ofSubmission .restore spec.collection s
    | .error e => return Outcome.ofFailure .restore spec.collection e
  | .sync => do
    match ← Workflow.call (.restore request) with
    | .error e => return Outcome.ofFailure .restore spec.collection e
    | .ok r =>
      let o := Outcome.ofResponse .restore spec.collection r
      if o.success then
        let answer ← Workflow.call (.optimize spec.collection)
        return withWarning o (optimizeWarning spec.collection answer)
      else return o

/-- Makes the restore, or queues it. -/
def execute (spec : RestoreSpec) : Workflow Outcome := do
  match ← Workflow.call (.prepareRestore spec.request) with
  | .error e => return Outcome.ofFailure .restore spec.collection e
  | .ok request =>
    match ← Workflow.call (.collectionExists spec.collection) with
    | .error e => return Outcome.ofFailure .restore spec.collection e
    | .ok false => carryOut spec request
    | .ok true =>
      if spec.force then
        match ← Workflow.call (.delete spec.collection) with
        | .error e => return deleteFailed e
        | .ok r => if r.isSuccess then carryOut spec request else return deleteRefused r
      else return refusal spec.collection

/-- Issues a restore. -/
def issue (spec : RestoreSpec) : Workflow Outcome := (execute spec).reported

/-- Asks about a queued restore. -/
def status (requestId : String) : Workflow Outcome := (JobStatus.query .restore requestId).reported

/-- Carries out a request, whichever of the two it is. -/
def run (request : JobRequest RestoreSpec) : Workflow Outcome :=
  (match request.resolve with
    | .ok (.issue spec) => execute spec
    | .ok (.status id) => JobStatus.query .restore id
    | .error e => pure (Outcome.ofError e)).reported

end ClusterBackup.Restore
