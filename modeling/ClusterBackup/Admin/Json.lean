/-
ClusterBackup.Admin.Json — the cluster's answers, as JSON and out of JSON.

`AdminResponse.toJson` and its reader are the form in which answers are
kept. `AdminResponse.ofBody?` and `RawJobStatus.ofBody?` find an answer in
the body that a cluster sent. A cluster lists failures in one of three
shapes, an object, an array of pairs or a flat array of names and values
in turn; `FailureDetail.listOf` reads all three, in their order.
-/
import ClusterBackup.Admin
import ClusterBackup.Outcome.Json
import ClusterBackup.Json.Writer

namespace ClusterBackup

open Json (Draft Fault)

namespace AdminResponse

def toJson (r : AdminResponse) : Json :=
  .object [("status", .number (.int r.status)),
    ("errors", .array (r.errors.map FailureDetail.toJson)), ("message", .ofText? r.message)]

/-- The least and the greatest status. -/
def leastStatus : Int := -2147483648
def greatestStatus : Int := 2147483647

def read (d : Draft) : Except Fault AdminResponse := do
  let r ← d.record ["status", "errors", "message"]
  let status ← r.required "status" (Draft.int? leastStatus greatestStatus)
  let errors ← r.required "errors" (Draft.list? FailureDetail.read)
  let message ← r.nullable "message" Draft.text?
  return ⟨status, errors, message⟩

end AdminResponse

def RawJobStatus.toJson (s : RawJobStatus) : Json :=
  .object [("state", .string s.state), ("message", .ofText? s.message),
    ("errors", .array (s.errors.map FailureDetail.toJson))]

/-! ## Failure lists -/

namespace FailureDetail

/-- A value as text: a string itself, null as nothing, anything else as JSON. -/
def textOf : Json → String
  | .string s => s
  | .null => ""
  | v => v.write

/-- The failure of a name and a value. -/
def ofValues (name value : Json) : FailureDetail := ⟨textOf name, textOf value⟩

/-- The failure of an array of two. -/
def ofPair? : Json → Option FailureDetail
  | .array [name, value] => some (ofValues name value)
  | _ => none

/-- The failures of names and values in turn; the last value may be missing. -/
def inTurn : List Json → List FailureDetail
  | [] => []
  | [name] => [⟨textOf name, ""⟩]
  | name :: value :: rest => ofValues name value :: inTurn rest

/-- The failures that a value lists; none where it is no list. -/
def listOf : Option Json → List FailureDetail
  | some (.object members) => members.map fun m => ⟨m.1, textOf m.2⟩
  | some (.array items) =>
    match items.mapM ofPair? with
    | some pairs => pairs
    | none => inTurn items
  | _ => []

end FailureDetail

/-! ## Bodies -/

namespace AdminResponse

def noStatus : Error := .protocol "response without responseHeader.status"

def statusOutOfRange (status : Int) : Error :=
  .protocol ("status " ++ toString status ++ " out of range")

/-- The response in a body. -/
def ofBody? (body : Json) : Except Error AdminResponse :=
  match (body.at? ["responseHeader", "status"]).bind Json.asInt64? with
  | none => .error noStatus
  | some status =>
    if leastStatus ≤ status ∧ status ≤ greatestStatus then
      .ok ⟨status, FailureDetail.listOf (body.get? "failure"),
        (body.at? ["error", "msg"]).bind Json.asString?⟩
    else .error (statusOutOfRange status)

end AdminResponse

namespace RawJobStatus

def noState : Error := .protocol "REQUESTSTATUS response without status.state"

/-- The name under which an exception is added to the failures. -/
def exceptionName : String := "exception"

/-- The status in a body. An exception comes after the failures. -/
def ofBody? (body : Json) : Except Error RawJobStatus :=
  match (body.at? ["status", "state"]).bind Json.asString? with
  | none => .error noState
  | some state =>
    let exception := (body.at? ["exception", "msg"]).bind Json.asString?
    .ok ⟨state, (body.at? ["status", "msg"]).bind Json.asString?,
      FailureDetail.listOf (body.get? "failure")
        ++ (exception.map fun msg => ⟨exceptionName, msg⟩).toList⟩

end RawJobStatus

end ClusterBackup
