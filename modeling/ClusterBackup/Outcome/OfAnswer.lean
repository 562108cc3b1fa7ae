/-
ClusterBackup.Outcome.OfAnswer — the outcome that an answer of the cluster is.

A response with status zero and nothing listed is a success; any other is
a failed operation with the cluster's list in its order. A job that the
cluster did not accept has failed even if the refusal looks like a
success. An error is a failure of its own kind.
-/
import ClusterBackup.Admin

namespace ClusterBackup.Outcome

/-- "Backup of [catalog]", and the rest of the sentence. -/
def sentence (operation : Operation) (collection : Collection) (rest : String) : String :=
  operation.title ++ " of [" ++ collection.name ++ "] " ++ rest

/-- A text after a space, if there is one. -/
def detailSuffix : Option String → String
  | none | some "" => ""
  | some detail => " " ++ detail

/-- The outcome of an operation that the cluster answered. -/
def ofResponse (operation : Operation) (collection : Collection) (r : AdminResponse) : Outcome :=
  if r.isSuccess then succeeded (sentence operation collection "complete.")
  else
    (failed .clusterOperationFailed
      (sentence operation collection ("failed with status " ++ toString r.status ++ ".")
        ++ detailSuffix r.message)).withErrors r.errors

/-- The outcome of a job that was to be queued. -/
def ofSubmission (operation : Operation) (collection : Collection) : Submission → Outcome
  | .accepted requestId => accepted requestId (operation.title ++ " request Id: " ++ requestId)
  | .rejected r =>
    if r.isSuccess then
      failed .clusterOperationFailed (sentence operation collection "was not accepted.")
    else ofResponse operation collection r

/-- The outcome of an operation that ended in an error. -/
def ofFailure (operation : Operation) (collection : Collection) (e : Error) : Outcome :=
  failed e.kind (sentence operation collection ("failed. " ++ e.cause))

end ClusterBackup.Outcome
