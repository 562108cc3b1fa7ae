/-
ClusterBackup.Rest — the service over HTTP.

Requests are matched to a route by their path, and refused when there is
none, when the method does not fit, or when what the route needs cannot be
read from them. What remains is one call of a workflow, whose outcome is
counted and answered as JSON; the status of the answer follows from the
outcome alone. Refused requests reach no workflow and are not counted.
-/
import ClusterBackup.Backup
import ClusterBackup.Restore
import ClusterBackup.Metrics
import ClusterBackup.Invocation.Json
import ClusterBackup.Outcome.Json
import ClusterBackup.Json.Writer
import ClusterBackup.Http.MediaType
import ClusterBackup.Url.Form

namespace ClusterBackup.Rest

open Json (Draft Fault)

/-- A request to the service. -/
structure Request where
  method : String
  /-- Path and query, as they were sent. -/
  target : String
  contentType : Option String
  body : String
deriving DecidableEq, Repr

/-- What the service answers. -/
structure Reply where
  status : Nat
  contentType : Option String
  body : String
deriving DecidableEq, Repr

/-! ## Replies -/

/-- The status of an outcome. -/
def statusOf (o : Outcome) : Nat :=
  if o.success then 200
  else
    match o.kind with
    | some .invalidArgument => 400
    | some .preconditionFailed => 409
    | some .clusterOperationFailed | some .transportFailure | none => 502

namespace Reply

/-- A request that was refused. -/
def refused (status : Nat) : Reply := ⟨status, none, ""⟩

/-- The outcome of a call. -/
def ofOutcome (o : Outcome) : Reply := ⟨statusOf o, some "application/json", o.toJson.write⟩

/-- The reply without its body. -/
def headOnly (r : Reply) : Reply := { r with body := "" }

end Reply

/-! ## Routes -/

/-- What the service offers. -/
inductive Route where
  | backups
  | restores
  /-- The status of a job, by its id as it is written in the path. -/
  | request (id : String)
  | health
  | metrics
deriving DecidableEq, Repr

namespace Route

/-- The route of a path. -/
def ofPath? (path : List Char) : Option Route :=
  match (Text.splitWhere (· == '/') path).map String.ofList with
  | ["", "v1", "backups"] => some .backups
  | ["", "v1", "restores"] => some .restores
  | ["", "v1", "requests", id] => if id = "" then none else some (.request id)
  | ["", "health"] => some .health
  | ["", "metrics"] => some .metrics
  | _ => none

/-- The route takes bodies. -/
def isPost : Route → Bool
  | backups | restores => true
  | _ => false

/-- The route answers the method. -/
def allows (r : Route) (method : String) : Bool :=
  if r.isPost then method == "POST" else method == "GET" || method == "HEAD"

end Route

/-! ## Reading requests -/

/-- The characters that end an authority. -/
def endsAuthority (c : Char) : Bool := c == '/' || c == '?' || c == '#'

/-- A target without the scheme and the authority that may stand in front of it. -/
def localPart (cs : List Char) : List Char :=
  let scheme := cs.takeWhile (!endsAuthority ·)
  match cs.drop scheme.length with
  | '/' :: '/' :: rest =>
    if scheme.getLast? = some ':' then rest.dropWhile (!endsAuthority ·) else cs
  | _ => cs

/-- The path of a target. -/
def pathOf (target : String) : List Char :=
  (localPart target.toList).takeWhile fun c => c != '?' && c != '#'

/-- The query of a target; empty where there is none. -/
def queryOf (target : String) : List Char :=
  (Text.cut '?' (target.toList.takeWhile (· != '#'))).2

/-- The operation that a query names; restores are asked about unless it names one. -/
def operationOf? (query : List Char) : Option Operation :=
  match (Url.Form.decode query).filter (·.1 == "operation") with
  | [] => some .restore
  | [p] => [Operation.backup, .restore].find? (·.label == p.2)
  | _ => none

/-- The bytes of the longest body. -/
def maxBodySize : Nat := 2 * 1024 * 1024

/-- The content type is one of JSON. -/
def isJsonType (contentType : Option String) : Bool :=
  ((contentType.bind Http.MediaType.parse?).map (·.isJson)).getD false

/-- The value that the body of a request holds, or the status of the refusal. What follows the value
in the body is not looked at. -/
def readBody {α : Type} (read : Draft → Except Fault α) (r : Request) : Except Nat α :=
  if !isJsonType r.contentType then .error 415
  else if maxBodySize < r.body.utf8ByteSize then .error 413
  else
    match read (Draft.scan r.body).1 with
    | .ok a => .ok a
    | .error .malformed => .error 400
    | .error .mismatched => .error 422

/-! ## Handling requests -/

/-- Answers with the outcome of a call, and counts it. -/
def answered (m : Metrics) (operation : Operation) (call : Workflow Outcome) :
    Workflow (Reply × Metrics) := do
  let o ← call
  return (.ofOutcome o, m.record operation o)

/-- Refuses a request. -/
def refuse (m : Metrics) (status : Nat) : Workflow (Reply × Metrics) :=
  return (.refused status, m)

/-- What a route answers. -/
def serve (m : Metrics) (r : Request) : Route → Workflow (Reply × Metrics)
  | .backups =>
    match readBody JobRequest.read r with
    | .ok request => answered m .backup (Backup.run request)
    | .error status => refuse m status
  | .restores =>
    match readBody JobRequest.read r with
    | .ok request => answered m .restore (Restore.run request)
    | .error status => refuse m status
  | .request id =>
    match Url.Percent.decode? id.toList, operationOf? (queryOf r.target) with
    | some id, some .backup => answered m .backup (Backup.status (String.ofList id))
    | some id, some .restore => answered m .restore (Restore.status (String.ofList id))
    | _, _ => refuse m 400
  | .health => return (⟨200, some "text/plain; charset=utf-8", "ok"⟩, m)
  | .metrics => return (⟨200, some "text/plain; version=0.0.4", m.text⟩, m)

/-- Handles a request. -/
def handle (m : Metrics) (r : Request) : Workflow (Reply × Metrics) :=
  match Route.ofPath? (pathOf r.target) with
  | none => refuse m 404
  | some route =>
    if route.allows r.method then do
      let (reply, m) ← serve m r route
      return (if r.method = "HEAD" then reply.headOnly else reply, m)
    else refuse m 405

end ClusterBackup.Rest
