/-
ClusterBackup.Invocation — a call either issues a job or asks about one.

A request carries a specification, a flag for a status query and perhaps a
request id. `resolve` settles which of the two it is before anything
reaches the cluster, and refuses requests that are neither or both.
-/
import ClusterBackup.Spec

namespace ClusterBackup

/-- Specifications of either workflow. -/
class JobSpec (S : Type) where
  collection : S → Collection
  mode : S → Mode

instance : JobSpec BackupSpec := ⟨BackupSpec.collection, BackupSpec.mode⟩

instance : JobSpec RestoreSpec := ⟨RestoreSpec.collection, RestoreSpec.mode⟩

/-- A call as it comes in. -/
structure JobRequest (S : Type) where
  spec : S
  status : Bool := false
  requestId : Option String := none
deriving DecidableEq, Repr

/-- A call as it is carried out. -/
inductive Invocation (S : Type) where
  | issue (spec : S)
  | status (requestId : String)
deriving DecidableEq, Repr

namespace Invocation

def asyncStatus : Error :=
  .invalidArgument "a status query cannot be combined with an asynchronous issuance"

def missingId : Error := .invalidArgument "a status query requires a request id"

def strayId : Error :=
  .invalidArgument "a request id is only accepted together with a status query"

end Invocation

namespace JobRequest

variable {S : Type}

/-- A request to issue a job. -/
def issue (spec : S) : JobRequest S := { spec }

/-- A request for the status of a job. -/
def statusOf (spec : S) (requestId : String) : JobRequest S :=
  { spec, status := true, requestId := some requestId }

/-- The request id without white space at its ends, if anything is left. -/
def givenId (r : JobRequest S) : Option String :=
  match r.requestId.map Text.trim with
  | some "" | none => none
  | some id => some id

/-- Settles whether the request issues a job or asks about one. -/
def resolve [JobSpec S] (r : JobRequest S) : Except Error (Invocation S) :=
  if r.status then
    if JobSpec.mode r.spec = .async then .error Invocation.asyncStatus
    else
      match r.givenId with
      | some id => .ok (.status id)
      | none => .error Invocation.missingId
  else if r.givenId.isSome then .error Invocation.strayId
  else .ok (.issue r.spec)

end JobRequest

end ClusterBackup
