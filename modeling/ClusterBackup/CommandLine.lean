/-
ClusterBackup.CommandLine — commands, from their words to their exit code.

A command finds its settings, makes a client, and is then one workflow:
the backup, restore or status query that it asks for, and after an
accepted job, if it was told to wait, the polls until the job has ended.
Reports of successes go to the standard output and all other text to the
standard error. The exit code is zero only for a success; a wait succeeds
only when the job did.
-/
import ClusterBackup.CommandLine.Arguments
import ClusterBackup.CommandLine.Failure
import ClusterBackup.CommandLine.Help
import ClusterBackup.Backup
import ClusterBackup.Restore
import ClusterBackup.Watch
import ClusterBackup.Config.Yaml
import ClusterBackup.Registry
import ClusterBackup.Http.Client
import ClusterBackup.Http.SocketAddress
import ClusterBackup.Simulated.Client

namespace ClusterBackup.CommandLine

/-! ## Waiting for jobs -/

/-- How a command ends: with a success or not, or with a failure of its own. -/
abbrev Ending := Except Failure Bool

namespace Waiting

/-- The watcher of a wait. Polls are at least a second apart. -/
def watch (w : Waiting) : Watch := ⟨max w.pollInterval 1 * 1000, w.timeout * 1000⟩

/-- The request to wait for after an outcome, if there is one and the command waits. -/
def awaited (w : Waiting) (o : Outcome) : Option String := if w.wait then o.requestId else none

end Waiting

/-- Reports how a wait ended. -/
def conclude (operation : Operation) (requestId : String) :
    Except Error JobStatus → Workflow Ending
  | .error e => .done (.error (.within ("Waiting for request " ++ requestId ++ " failed") e))
  | .ok s =>
    let o := s.outcome operation
    .tell (Report.ofOutcome o) (.done (.ok o.success))

/-- Waits for a job, and reports how it ended. -/
def watchJob (clock : Watch → Stopwatch) (operation : Operation) (w : Waiting)
    (requestId : String) : Workflow Ending :=
  (w.watch.wait (clock w.watch) requestId).bind (conclude operation requestId)

/-- Goes on after the outcome of a command: waits for the job that was accepted, if told to. -/
def follow (clock : Watch → Stopwatch) (operation : Operation) (w : Waiting) (o : Outcome) :
    Workflow Ending :=
  match w.awaited o with
  | some id => watchJob clock operation w id
  | none => .done (.ok o.success)

/-! ## Commands as tasks -/

namespace JobArguments

def mode (a : JobArguments) : Mode := if a.async then .async else .sync

/-- The request of a backup. -/
def backupRequest (a : JobArguments) : Except Error (JobRequest BackupSpec) := do
  let collection ← Collection.ofName? a.collection
  let spec := { collection, location := a.location, backupName := a.backupName, mode := a.mode }
  return { spec, status := a.status, requestId := a.requestId }

/-- The request of a restore. -/
def restoreRequest (a : JobArguments) (force : Bool) : Except Error (JobRequest RestoreSpec) := do
  let collection ← Collection.ofName? a.collection
  let spec :=
    { collection, location := a.location, backupName := a.backupName, mode := a.mode, force }
  return { spec, status := a.status, requestId := a.requestId }

end JobArguments

/-- What a command does with its client. -/
inductive Task where
  /-- A workflow, and then the wait for the job that it queued, if the command waits. -/
  | job (operation : Operation) (waiting : Waiting) (workflow : Workflow Outcome)
  /-- The wait for a request that is known. -/
  | watch (operation : Operation) (waiting : Waiting) (requestId : String)
  /-- The service at an address. -/
  | serve (address : Http.SocketAddress)

def invalidAddress (address : String) : Failure :=
  ⟨"Invalid REST API address: " ++ address, ["invalid socket address syntax"]⟩

/-- The status query that a command asks for. -/
def query (operation : Operation) (requestId : String) : Workflow Outcome :=
  match operation with
  | .backup => Backup.status requestId
  | .restore => Restore.status requestId

/-- The task of a command. -/
def Command.task : Command → Except Failure Task
  | .backup a =>
    match a.backupRequest with
    | .error e => .error (.ofError e)
    | .ok r => .ok (.job .backup a.waiting (Backup.run r))
  | .restore a force =>
    match a.restoreRequest force with
    | .error e => .error (.ofError e)
    | .ok r => .ok (.job .restore a.waiting (Restore.run r))
  | .status id operation w =>
    if w.wait then .ok (.watch operation w id) else .ok (.job operation w (query operation id))
  | .serve address =>
    match Http.SocketAddress.parse? address with
    | some a => .ok (.serve a)
    | none => .error (invalidAddress address)

/-! ## Settings and clients -/

/-- The settings that the arguments ask for. -/
def settings (files : FileSystem) (a : Arguments) : Except Failure Config := do
  let c ← match a.config with
    | none => .ok {}
    | some path =>
      match Config.load files path with
      | .ok c => .ok c
      | .error e => .error (.within ("Failed to load " ++ path) e)
  let c := match a.clusterUrl with
    | some url => { c with baseUrl := url }
    | none => c
  match c.validate with
  | .ok () => return c
  | .error e => .error (.ofError e)

/-- A simulated cluster that has the default collection. -/
def standaloneCluster (c : Config) : Simulated.Cluster :=
  ({ config := { c with clientKind := "memory" } } : Simulated.Cluster).createCollection
    Collection.default.name

/-- The client that the arguments ask for. -/
def choose (a : Arguments) (c : Config) : Except Failure ClientChoice :=
  if a.standalone then .ok (.simulated (standaloneCluster c))
  else
    match Registry.standard.create c with
    | .ok choice => .ok choice
    | .error e => .error (.ofError e)

/-- The client and the task of the arguments. -/
def plan (files : FileSystem) (a : Arguments) : Except Failure (ClientChoice × Task) := do
  let config ← settings files a
  let client ← choose a config
  return (client, ← a.command.task)

/-! ## Output -/

/-- What a command leaves behind. -/
structure Output where
  exit : Nat
  stdout : String
  stderr : String
deriving DecidableEq, Repr

namespace Output

/-- The texts of reports as lines. -/
def lines (reports : List Report) : String := String.join (reports.map (·.text ++ "\n"))

/-- The output of an ending, after reports. -/
def ofEnding (reports : List Report) (e : Ending) : Output :=
  { exit := match e with
      | .ok true => 0
      | _ => 1
    stdout := lines (reports.filter (·.success))
    stderr := lines (reports.filter (!·.success)) ++ (match e with
      | .ok _ => ""
      | .error f => f.text ++ "\n") }

/-- The output of a failure. -/
def ofFailure (f : Failure) : Output := ofEnding [] (.error f)

/-- The output of words that are not carried out. -/
def ofStop (environment : List (String × String)) : Stop → Output
  | .version => ⟨0, Service.command ++ " " ++ Service.version ++ "\n", ""⟩
  | .help command => ⟨0, Help.page environment command, ""⟩
  | .usage => ⟨2, "", Help.usage none ++ "\n"⟩

end Output

/-! ## Running -/

/-- What a command finds around it. -/
structure Host (ν : Type) where
  environment : List (String × String)
  files : FileSystem
  now : DateTime
  /-- The stopwatch of a wait. -/
  clock : Watch → Stopwatch
  transport : Http.Transport ν
  network : ν
  /-- Why no server can listen at an address; none if one can. -/
  bindFault : Http.SocketAddress → Option String

/-- What a command line comes to: an output, or a server that listens. -/
inductive Result where
  | finished (output : Output)
  | listening (address : Http.SocketAddress) (client : ClientChoice)

def cannotBind (reason : String) : Error :=
  .internal ("Failed to bind REST server: " ++ reason)

section

variable {ν : Type}

/-- Runs a workflow on a client. -/
def runJob (h : Host ν) (w : Workflow Ending) : ClientChoice → Output
  | .simulated cluster =>
    let r := w.run (Simulated.client h.now) cluster
    .ofEnding r.reports r.result
  | .http config =>
    let r := w.run (Http.client config ⟨h.now, h.files⟩ h.transport) { network := h.network }
    .ofEnding r.reports r.result

/-- Runs a task on a client. -/
def runTask (h : Host ν) (client : ClientChoice) : Task → Except Failure Result
  | .job operation w workflow =>
    .ok (.finished (runJob h (workflow.bind (follow h.clock operation w)) client))
  | .watch operation w id => .ok (.finished (runJob h (watchJob h.clock operation w id) client))
  | .serve address =>
    match h.bindFault address with
    | some reason => .error (.ofError (cannotBind reason))
    | none => .ok (.listening address client)

/-- Runs the words of a command line. -/
def run (h : Host ν) (words : List String) : Result :=
  match Arguments.read h.environment words with
  | .error stop => .finished (.ofStop h.environment stop)
  | .ok a =>
    match (plan h.files a).bind fun (client, task) => runTask h client task with
    | .error f => .finished (.ofFailure f)
    | .ok r => r

end

end ClusterBackup.CommandLine
