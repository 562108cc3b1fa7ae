/-
ClusterBackup.Status — what the cluster's words for a job's state mean.

Clusters spell states in their own ways: letter case, white space at the
ends, and blanks, hyphens and underscores anywhere do not matter. A state
that is still not known is an answer that is not understood, never a
state. Only a failed job carries its list of failures on.

A query trims the request id and asks the cluster once; a blank id is
refused before anything is asked.
-/
import ClusterBackup.Workflow
import ClusterBackup.Invocation

namespace ClusterBackup

namespace JobState

/-- Characters that spellings of a state put in or leave out. -/
def isSeparator (c : Char) : Bool := c == '_' || c == '-' || c == ' '

/-- A spelling without separators, in lower case. -/
def normalize (raw : String) : List Char :=
  (((Text.trimChars raw.toList).filter (!isSeparator ·)).map Char.toLower)

/-- The state that a spelling means. -/
def ofRaw? (raw : String) : Option JobState :=
  let spelling := String.ofList (normalize raw)
  [submitted, running, completed, failed, notFound].find? (·.label == spelling)

end JobState

namespace JobStatus

/-- The status that a raw status means, for a request. -/
def ofRaw? (requestId : String) (raw : RawJobStatus) : Except Error JobStatus :=
  match JobState.ofRaw? raw.state with
  | none =>
    .error (.protocol
      ("unrecognized state '" ++ raw.state ++ "' for request " ++ requestId))
  | some state =>
    .ok ⟨requestId, state, if state = .failed then raw.errors else [], raw.message⟩

/-- The outcome of a query that found the status. -/
def outcome (operation : Operation) (s : JobStatus) : Outcome :=
  let message :=
    operation.title ++ " request [" ++ s.requestId ++ "] status: " ++ s.state.label
  if s.state.isFailure then
    ((Outcome.failed .clusterOperationFailed message).withErrors s.errors).withJobStatus s
  else (Outcome.succeeded message).withJobStatus s

/-- Asks for the status of a job, once. -/
def fetch (requestId : String) : Workflow (Except Error JobStatus) :=
  let id := Text.trim requestId
  if id = "" then return .error Invocation.missingId
  else do
    match ← Workflow.call (.queryStatus id) with
    | .ok raw => return ofRaw? id raw
    | .error e => return .error e

/-- Asks for the status of a job, and what came of it. -/
def query (operation : Operation) (requestId : String) : Workflow Outcome := do
  match ← fetch requestId with
  | .ok s => return s.outcome operation
  | .error e => return Outcome.ofError e

end JobStatus

/-- Reports what a workflow came to, once it is done. -/
def Workflow.reported (w : Workflow Outcome) : Workflow Outcome := do
  let o ← w
  .tell (Report.ofOutcome o) (pure o)

end ClusterBackup
