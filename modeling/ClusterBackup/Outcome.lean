/-
ClusterBackup.Outcome — what a call comes to.

Every call ends in one outcome: success or a kind of failure, a message,
and the failures that the cluster listed. An accepted job has a request
id, a status query the status of the job. The functions of this module
build outcomes and nothing else does.
-/
import ClusterBackup.Error

namespace ClusterBackup

/-- One failure that the cluster lists. -/
structure FailureDetail where
  name : String
  value : String
deriving DecidableEq, Repr

/-- The state of a queued job. -/
inductive JobState where
  | submitted
  | running
  | completed
  | failed
  | notFound
deriving DecidableEq, Repr

namespace JobState

/-- States that a job does not leave. -/
def isTerminal : JobState → Bool
  | completed | failed | notFound => true
  | submitted | running => false

/-- States of a job that did not do its work. -/
def isFailure : JobState → Bool
  | failed | notFound => true
  | _ => false

def label : JobState → String
  | submitted => "submitted"
  | running => "running"
  | completed => "completed"
  | failed => "failed"
  | notFound => "notfound"

end JobState

/-- The status of a queued job. -/
structure JobStatus where
  requestId : String
  state : JobState
  errors : List FailureDetail
  message : Option String
deriving DecidableEq, Repr

/-- What a call came to. -/
structure Outcome where
  success : Bool
  requestId : Option String
  errors : List FailureDetail
  message : String
  kind : Option FailureKind
  jobStatus : Option JobStatus
deriving DecidableEq, Repr

namespace Outcome

def succeeded (message : String) : Outcome := ⟨true, none, [], message, none, none⟩

/-- A job was queued under an id. -/
def accepted (requestId message : String) : Outcome :=
  { succeeded message with requestId := some requestId }

def failed (kind : FailureKind) (message : String) : Outcome :=
  ⟨false, none, [], message, some kind, none⟩

/-- The failure that an error is. -/
def ofError (e : Error) : Outcome := failed e.kind e.cause

def withErrors (o : Outcome) (errors : List FailureDetail) : Outcome := { o with errors }

def withJobStatus (o : Outcome) (status : JobStatus) : Outcome :=
  { o with jobStatus := some status }

end Outcome

end ClusterBackup
