/-
ClusterBackup.Simulated.Client — the calls of a simulated cluster.

Every call but the preparation of a restore is logged first and may then
meet a fault in the place of its answer: the first that waits for its
kind. Without a fault it acts on the state. A job does its work when it is
queued and is then polled to its end: the first poll finds it submitted,
later ones running, until as many polls as the settings say have passed;
it stays known for a few polls more.
-/
import ClusterBackup.Simulated.Cluster
import ClusterBackup.Snapshot

namespace ClusterBackup.Simulated

namespace Cluster

/-! ## The log and the faults -/

/-- Puts a call at the end of the log, which forgets its first one when it is full. -/
def logCall (calls : List LoggedCall) (call : LoggedCall) : List LoggedCall :=
  (if calls.length = callLogCapacity then calls.drop 1 else calls) ++ [call]

/-- The first fault for a kind, and the faults that wait after it was met. -/
def takeFault (kind : CallKind) : List Injected → Option Fault × List Injected
  | [] => (none, [])
  | i :: rest =>
    if i.kind = kind then (some i.fault, if i.persistent then i :: rest else rest)
    else
      let (fault, rest) := takeFault kind rest
      (fault, i :: rest)

/-- Logs a call and finds the fault that it meets. -/
def enter (s : Cluster) (kind : CallKind) (target : String) : Option Fault × Cluster :=
  let (fault, faults) := takeFault kind s.faults
  (fault, { s with calls := logCall s.calls ⟨kind, target⟩, faults })

/-- The answer to a call that met a fault. -/
def faultAnswer : Fault → Except Error AdminResponse
  | .respond r => .ok r
  | .unreachable reason => .error (.connection reason)

/-- Acts on the state, unless the call meets a fault. -/
def guarded (s : Cluster) (kind : CallKind) (target : String)
    (act : Cluster → AdminResponse × Cluster) : Except Error AdminResponse × Cluster :=
  match s.enter kind target with
  | (some fault, s) => (faultAnswer fault, s)
  | (none, s) =>
    let (r, s) := act s
    (.ok r, s)

/-! ## Backups and restores -/

/-- A refusal that names one thing. -/
def refused (status : Int) (name value : String) : AdminResponse :=
  .failed status [⟨name, value⟩]

/-- Takes a backup at a moment. -/
def performBackup (now : DateTime) (request : SnapshotRequest) (s : Cluster) :
    AdminResponse × Cluster :=
  let collection := request.collection.name
  if s.hasCollection collection then
    let name := request.backupName.getD (Snapshot.name now)
    let location := s.locationKey request.location
    let present := s.backupsAt location
    if present.contains name then
      (refused 400 "Backup already exists" name,
        { s with backups := s.backups.insert location present })
    else
      (AdminResponse.ok.withMessage name,
        { s with backups := s.backups.insert location (present.insert name collection) })
  else (refused 400 "Collection not found" collection, s)

/-- The backup that a restore asks for: the named one, or the latest of those named by time. -/
def wantedBackup (request : SnapshotRequest) (s : Cluster) : Option String :=
  match request.backupName with
  | some name => some name
  | none => Snapshot.latest? (s.backupsAt (s.locationKey request.location)).names

/-- Restores a collection. -/
def performRestore (request : SnapshotRequest) (s : Cluster) : AdminResponse × Cluster :=
  let collection := request.collection.name
  let location := s.locationKey request.location
  match s.wantedBackup request with
  | none => (refused 400 "Backup not found" (location ++ "/"), s)
  | some name =>
    if (s.backupsAt location).contains name then
      if s.hasCollection collection then (refused 400 "Collection already exists" collection, s)
      else (AdminResponse.ok.withMessage name, s.createCollection collection)
    else (refused 400 "Backup not found" (location ++ "/" ++ name), s)

/-! ## Jobs -/

/-- A number with zeros in front up to eight digits. -/
def sequenceText (n : Nat) : String := String.ofList (Snapshot.padded 8 n)

/-- The request id of a job. -/
def jobId (operation : Operation) (sequence : Nat) : String :=
  operation.label ++ "-" ++ sequenceText sequence

/-- The smallest sequence number among jobs. -/
def oldest? (jobs : List (String × Job)) : Option Nat := (jobs.map (·.2.sequence)).min?

/-- Makes room for a job: when too many are known, the oldest one is forgotten. -/
def makeRoom (jobs : List (String × Job)) : List (String × Job) :=
  if jobs.length < maxTrackedJobs then jobs
  else
    match oldest? jobs with
    | some n => jobs.filter (·.2.sequence != n)
    | none => jobs

/-- Queues a job with the result of its work. -/
def track (s : Cluster) (operation : Operation) (result : AdminResponse) : String × Cluster :=
  let sequence := s.nextRequest + 1
  let id := jobId operation sequence
  (id, { s with
    nextRequest := sequence
    jobs := makeRoom s.jobs ++ [(id, ⟨sequence, 0, result⟩)] })

/-- Queues a job, unless the call meets a fault. -/
def submit (s : Cluster) (kind : CallKind) (operation : Operation) (request : SnapshotRequest)
    (perform : Cluster → AdminResponse × Cluster) : Except Error Submission × Cluster :=
  match s.enter kind request.collection.name with
  | (some fault, s) => ((faultAnswer fault).map .rejected, s)
  | (none, s) =>
    let (result, s) := perform s
    let (id, s) := s.track operation result
    (.ok (.accepted id), s)

/-- What a poll finds, by how many there were and how many it takes. -/
def reveal (needed polls : Nat) (result : AdminResponse) : RawJobStatus :=
  if needed ≤ polls then
    if result.isSuccess then .ofState "completed"
    else { RawJobStatus.ofState "failed" with errors := result.errors }
  else if polls = 1 then .ofState "submitted"
  else .ofState "running"

/-- Counts are kept within 32 bits. -/
def saturate (n : Nat) : Nat := min n maxPolls

/-- Polls a job. -/
def poll (id : String) (s : Cluster) : RawJobStatus × Cluster :=
  match s.jobs.lookup id with
  | none => (.ofState "notfound", s)
  | some job =>
    let needed := s.config.simulatedJobPolls.toNat
    let polls := saturate (job.polls + 1)
    let jobs :=
      if saturate (needed + terminalPollsRetained) ≤ polls then s.jobs.filter (·.1 != id)
      else s.jobs.map fun j => if j.1 = id then (id, { job with polls }) else j
    (reveal needed polls job.result, { s with jobs })

/-! ## Calls -/

def existsCall (c : Collection) (s : Cluster) : Except Error Bool × Cluster :=
  match s.enter .collectionExists c.name with
  | (some fault, s) => ((faultAnswer fault).map (·.isSuccess), s)
  | (none, s) => (.ok (s.hasCollection c.name), s)

/-- Deletes a collection. -/
def performDelete (c : Collection) (s : Cluster) : AdminResponse × Cluster :=
  if s.hasCollection c.name then (.ok, { s with collections := s.collections.erase c.name })
  else (refused 400 "Collection not found" c.name, s)

/-- Optimizes a collection. -/
def performOptimize (c : Collection) (s : Cluster) : AdminResponse × Cluster :=
  match s.collections.get? c.name with
  | some l =>
    (.ok, { s with collections := s.collections.insert c.name { l with optimized := true } })
  | none => (refused 404 "Collection not found" c.name, s)

def queryCall (id : String) (s : Cluster) : Except Error RawJobStatus × Cluster :=
  match s.enter .queryStatus id with
  | (some (.unreachable reason), s) => (.error (.connection reason), s)
  | (some (.respond r), s) =>
    (.ok { RawJobStatus.ofState "failed" with errors := r.errors }, s)
  | (none, s) =>
    let (status, s) := s.poll id
    (.ok status, s)

/-- Answers a call at a moment. -/
def answer (now : DateTime) : (call : AdminCall) → Cluster → Except Error call.Answer × Cluster
  | .prepareRestore request, s => (.ok request, s)
  | .collectionExists c, s => s.existsCall c
  | .delete c, s => s.guarded .delete c.name (performDelete c)
  | .backup request, s => s.guarded .backup request.collection.name (performBackup now request)
  | .submitBackup request, s => s.submit .submitBackup .backup request (performBackup now request)
  | .restore request, s => s.guarded .restore request.collection.name (performRestore request)
  | .submitRestore request, s => s.submit .submitRestore .restore request (performRestore request)
  | .optimize c, s => s.guarded .optimize c.name (performOptimize c)
  | .queryStatus id, s => s.queryCall id

end Cluster

/-- The simulated cluster at a moment, behind the port. -/
def client (now : DateTime) : Client Cluster := ⟨"memory", Cluster.answer now⟩

end ClusterBackup.Simulated
