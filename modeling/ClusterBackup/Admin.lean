/-
ClusterBackup.Admin — the administration port of a cluster.

`AdminCall` lists the calls that the workflows make, each with the type of
its answer. A `Client` answers calls out of a state of any kind, so it may
depend on the whole history: a simulated cluster, an HTTP endpoint and an
adversary are all clients. Every call may end in an error instead.
-/
import ClusterBackup.Spec
import ClusterBackup.Outcome

namespace ClusterBackup

/-- The cluster's answer to an administrative command. -/
structure AdminResponse where
  status : Int
  errors : List FailureDetail
  message : Option String
deriving DecidableEq, Repr

namespace AdminResponse

def ok : AdminResponse := ⟨0, [], none⟩

def failed (status : Int) (errors : List FailureDetail) : AdminResponse := ⟨status, errors, none⟩

def withMessage (r : AdminResponse) (message : String) : AdminResponse :=
  { r with message := some message }

/-- Status zero and nothing listed. -/
def isSuccess (r : AdminResponse) : Bool := r.status == 0 && r.errors.isEmpty

end AdminResponse

/-- The cluster's answer to a job that was to be queued. -/
inductive Submission where
  | accepted (requestId : String)
  | rejected (response : AdminResponse)
deriving DecidableEq, Repr

/-- The status of a job in the cluster's own words. -/
structure RawJobStatus where
  state : String
  message : Option String
  errors : List FailureDetail
deriving DecidableEq, Repr

/-- A status of which only the state is known. -/
def RawJobStatus.ofState (state : String) : RawJobStatus := ⟨state, none, []⟩

/-- A call to the cluster. -/
inductive AdminCall where
  /-- Settle what a restore will ask for, before anything is touched. -/
  | prepareRestore (request : SnapshotRequest)
  | collectionExists (collection : Collection)
  | delete (collection : Collection)
  | backup (request : SnapshotRequest)
  | submitBackup (request : SnapshotRequest)
  | restore (request : SnapshotRequest)
  | submitRestore (request : SnapshotRequest)
  | optimize (collection : Collection)
  | queryStatus (requestId : String)
deriving DecidableEq, Repr

/-- What a call is answered with. -/
@[reducible] def AdminCall.Answer : AdminCall → Type
  | prepareRestore _ => SnapshotRequest
  | collectionExists _ => Bool
  | delete _ | backup _ | restore _ | optimize _ => AdminResponse
  | submitBackup _ | submitRestore _ => Submission
  | queryStatus _ => RawJobStatus

/-- A cluster behind the port, with a state of type `σ`. -/
structure Client (σ : Type) where
  name : String
  answer : (call : AdminCall) → σ → Except Error call.Answer × σ

end ClusterBackup
