/-
ClusterBackup.Http.Client — a cluster behind HTTP.

Every call is one request with its parameters in the query, and one answer
in JSON. Before a backup or a restore is sent, its name is settled: a
given name that is not blank is taken as it is, a backup gets the name of
the moment, and a restore the name of the latest backup at its location. A
queued job gets an id of its own making, which ends in a number that grows
with every job; the number is taken when the parameters are settled and
before anything is sent.
-/
import ClusterBackup.Admin.Json
import ClusterBackup.Http.Exchange
import ClusterBackup.Snapshot.Directory
import ClusterBackup.Config

namespace ClusterBackup.Http

/-- What a client knows besides its settings: the moment, and the files it can see. -/
structure Surroundings where
  now : DateTime
  files : FileSystem

/-- The state of a client: how many ids it made, and the network it talks to. -/
structure State (ν : Type) where
  nextId : Nat := 0
  network : ν

/-- The parameters of a request, in their order. -/
abbrev Params := List (String × String)

/-! ## Settling a request -/

def missingLocation : Error :=
  .invalidArgument "a restore without a backup name requires a location"

def nothingFound (location : String) : Error :=
  .invalidArgument ("no snapshot.<timestamp> backup found in " ++ location)

/-- The name under which a backup is taken or restored. -/
def backupName (c : Config) (env : Surroundings) (operation : Operation) (r : SnapshotRequest) :
    Except Error String :=
  match r.backupName.bind Text.nonBlank? with
  | some name => .ok name
  | none =>
    match operation with
    | .backup => .ok (Snapshot.name env.now)
    | .restore =>
      match c.locationFor r.location with
      | none => .error missingLocation
      | some location => do
        match ← Snapshot.resolve? env.files location with
        | some name => return name
        | none => .error (nothingFound location)

/-- The name of an operation as a parameter. -/
def actionName : Operation → String
  | .backup => "BACKUP"
  | .restore => "RESTORE"

/-- The layout that a restore asks for. -/
def layoutParams (c : Config) : Operation → Params
  | .backup => []
  | .restore =>
    [("replicationFactor", toString c.replicationFactor.toNat),
      ("maxShardsPerNode", toString c.maxShardsPerNode.toNat)]

/-- The parameters of a backup or a restore. -/
def snapshotParams (c : Config) (env : Surroundings) (operation : Operation)
    (r : SnapshotRequest) : Except Error Params := do
  let name ← backupName c env operation r
  return [("action", actionName operation), ("name", name), ("collection", r.collection.name)]
    ++ ((c.locationFor r.location).map fun location => ("location", location)).toList
    ++ layoutParams c operation

/-- The id of the job with a number. -/
def jobId (operation : Operation) (collection : Collection) (now : DateTime) (number : Nat) :
    String :=
  operation.label ++ "-" ++ collection.name ++ "-" ++ String.ofList (Snapshot.stamp now) ++ "-"
    ++ toString number

/-! ## Sending a request -/

/-- The base URL without slashes at its end. -/
def baseUrl (c : Config) : String :=
  String.ofList ((c.baseUrl.toList.reverse.dropWhile (· == '/')).reverse)

def adminUrl (c : Config) : String := baseUrl c ++ "/admin/collections"

def updateUrl (c : Config) (collection : Collection) : String :=
  baseUrl c ++ "/" ++ collection.name ++ "/update"

/-- The parameter that asks for JSON. -/
def formatParam : String × String := ("wt", "json")

/-- The URL of a request. -/
def requestUrl? (url : String) (params : Params) : Option Url :=
  (Url.parse? url).map (·.withQuery (params ++ [formatParam]))

/-- How much of a body that is no JSON is quoted. -/
def excerptLength : Nat := 200

/-- An answer that is no JSON. -/
def notJson (r : Response) : Error :=
  .protocol ("HTTP " ++ statusText r.status ++ " with non-JSON body: "
    ++ String.ofList (r.text.toList.take excerptLength))

def unusableUrl : Error := .transport "builder error"

/-- The body of an answer. -/
def bodyOf (r : Response) : Except Error Json :=
  match Json.parse? r.text with
  | some v => .ok v
  | none => .error (notJson r)

section

variable {ν : Type}

/-- Sends a request and reads the body of the answer. -/
def send (t : Transport ν) (url : String) (params : Params) (s : State ν) :
    Except Error Json × State ν :=
  match requestUrl? url params with
  | none => (.error unusableUrl, s)
  | some u =>
    let (answer, network) := t u s.network
    (match answer with
      | .error reason => .error (.transport reason)
      | .ok r => bodyOf r,
      { s with network })

/-! ## Calls -/

def notListed (collection : Collection) (status : Int) : Error :=
  .clusterOperation "list" collection.name ("status " ++ toString status)

def noCollections : Error := .protocol "LIST response without collections"

/-- Whether a list of collections has one. -/
def listHas (collection : Collection) (body : Json) : Except Error Bool := do
  let r ← AdminResponse.ofBody? body
  if r.isSuccess then
    match (body.get? "collections").bind Json.asArray? with
    | some names => return (names.filterMap Json.asString?).contains collection.name
    | none => .error noCollections
  else .error (notListed collection r.status)

/-- What became of a job that was sent with an id. -/
def submissionOf (id : String) (body : Json) : Except Error Submission := do
  let r ← AdminResponse.ofBody? body
  if r.isSuccess then
    return .accepted (((body.get? "requestid").bind Json.asString?).getD id)
  else return .rejected r

/-- Carries out a backup or a restore. -/
def runSnapshot (c : Config) (env : Surroundings) (t : Transport ν) (operation : Operation)
    (r : SnapshotRequest) (s : State ν) : Except Error AdminResponse × State ν :=
  match snapshotParams c env operation r with
  | .error e => (.error e, s)
  | .ok params =>
    let (body, s) := send t (adminUrl c) params s
    (body.bind AdminResponse.ofBody?, s)

/-- Queues a backup or a restore. -/
def submitSnapshot (c : Config) (env : Surroundings) (t : Transport ν) (operation : Operation)
    (r : SnapshotRequest) (s : State ν) : Except Error Submission × State ν :=
  match snapshotParams c env operation r with
  | .error e => (.error e, s)
  | .ok params =>
    let id := jobId operation r.collection env.now s.nextId
    let (body, s) :=
      send t (adminUrl c) (params ++ [("async", id)]) { s with nextId := s.nextId + 1 }
    (body.bind (submissionOf id), s)

/-- Answers a call. -/
def answer (c : Config) (env : Surroundings) (t : Transport ν) :
    (call : AdminCall) → State ν → Except Error call.Answer × State ν
  | .prepareRestore r, s =>
    ((backupName c env .restore r).map fun name => { r with backupName := some name }, s)
  | .collectionExists collection, s =>
    let (body, s) := send t (adminUrl c) [("action", "LIST")] s
    (body.bind (listHas collection), s)
  | .delete collection, s =>
    let (body, s) := send t (adminUrl c) [("action", "DELETE"), ("name", collection.name)] s
    (body.bind AdminResponse.ofBody?, s)
  | .backup r, s => runSnapshot c env t .backup r s
  | .submitBackup r, s => submitSnapshot c env t .backup r s
  | .restore r, s => runSnapshot c env t .restore r s
  | .submitRestore r, s => submitSnapshot c env t .restore r s
  | .optimize collection, s =>
    let (body, s) := send t (updateUrl c collection)
      [("optimize", "true"), ("waitSearcher", "true")] s
    (body.bind AdminResponse.ofBody?, s)
  | .queryStatus requestId, s =>
    let (body, s) := send t (adminUrl c) [("action", "REQUESTSTATUS"), ("requestid", requestId)] s
    (body.bind RawJobStatus.ofBody?, s)

/-- The cluster behind HTTP, with settings, in surroundings, over a network. -/
def client (c : Config) (env : Surroundings) (t : Transport ν) : Client (State ν) :=
  ⟨"http", answer c env t⟩

end

end ClusterBackup.Http
