/-
ClusterBackup.Outcome.Json — outcomes, statuses and failures as JSON.

Members that are null by nature, such as the request id of an outcome, are
written as null; a kind, a job status and a status message are left out
where there are none. Words of a kind are joined by capitals, those of a
state by underscores.
-/
import ClusterBackup.Outcome
import ClusterBackup.Json.Reader

namespace ClusterBackup

open Json (Draft Fault)

namespace FailureKind

/-- The kind as one word. -/
def word : FailureKind → String
  | invalidArgument => "invalidArgument"
  | preconditionFailed => "preconditionFailed"
  | clusterOperationFailed => "clusterOperationFailed"
  | transportFailure => "transportFailure"

def read : Draft → Except Fault FailureKind :=
  Draft.choice?
    ([invalidArgument, preconditionFailed, clusterOperationFailed, transportFailure].map fun k =>
      (k.word, k))
    Draft.isNull

end FailureKind

namespace FailureDetail

def toJson (e : FailureDetail) : Json :=
  .object [("name", .string e.name), ("value", .string e.value)]

def read (d : Draft) : Except Fault FailureDetail := do
  let r ← d.record ["name", "value"]
  let name ← r.required "name" Draft.text?
  let value ← r.required "value" Draft.text?
  return ⟨name, value⟩

end FailureDetail

namespace JobState

/-- The state in capitals. -/
def word : JobState → String
  | submitted => "SUBMITTED"
  | running => "RUNNING"
  | completed => "COMPLETED"
  | failed => "FAILED"
  | notFound => "NOT_FOUND"

def read : Draft → Except Fault JobState :=
  Draft.choice? ([submitted, running, completed, failed, notFound].map fun s => (s.word, s))
    Draft.isNull

end JobState

namespace JobStatus

def toJson (s : JobStatus) : Json :=
  .object ([("requestId", .string s.requestId), ("state", .string s.state.word),
      ("errors", .array (s.errors.map FailureDetail.toJson))]
    ++ Json.member? "message" (s.message.map .string))

def read (d : Draft) : Except Fault JobStatus := do
  let r ← d.record ["requestId", "state", "errors", "message"]
  let requestId ← r.required "requestId" Draft.text?
  let state ← r.required "state" JobState.read
  let errors ← r.required "errors" (Draft.list? FailureDetail.read)
  let message ← r.nullable "message" Draft.text?
  return ⟨requestId, state, errors, message⟩

end JobStatus

namespace Outcome

def toJson (o : Outcome) : Json :=
  .object ([("success", .bool o.success), ("requestId", .ofText? o.requestId),
      ("errors", .array (o.errors.map FailureDetail.toJson)), ("message", .string o.message)]
    ++ Json.member? "kind" (o.kind.map fun k => .string k.word)
    ++ Json.member? "jobStatus" (o.jobStatus.map JobStatus.toJson))

def read (d : Draft) : Except Fault Outcome := do
  let r ← d.record ["success", "requestId", "errors", "message", "kind", "jobStatus"]
  let success ← r.required "success" Draft.flag?
  let requestId ← r.nullable "requestId" Draft.text?
  let errors ← r.required "errors" (Draft.list? FailureDetail.read)
  let message ← r.required "message" Draft.text?
  let kind ← r.nullable "kind" FailureKind.read
  let jobStatus ← r.nullable "jobStatus" JobStatus.read
  return ⟨success, requestId, errors, message, kind, jobStatus⟩

end Outcome

end ClusterBackup
