/-
ClusterBackup.Simulated.Cluster — the state of a simulated cluster.

Collections with their layout, backups by location and name, queued jobs,
faults that wait for a call, and a log of the latest calls. This module
has the state, what a test prepares in it and what a test sees of it;
`ClusterBackup.Simulated.Client` has the calls.
-/
import ClusterBackup.Admin
import ClusterBackup.Config
import ClusterBackup.Table

namespace ClusterBackup.Simulated

/-- The kinds of calls that are logged and that faults wait for. -/
inductive CallKind where
  | collectionExists
  | delete
  | backup
  | submitBackup
  | restore
  | submitRestore
  | optimize
  | queryStatus
deriving DecidableEq, Repr

/-- What a call meets instead of the cluster. -/
inductive Fault where
  /-- The cluster answers with this response. -/
  | respond (response : AdminResponse)
  /-- The cluster cannot be reached. -/
  | unreachable (reason : String)
deriving DecidableEq, Repr

/-- A fault that waits for a call of a kind. A persistent one stays after it was met. -/
structure Injected where
  kind : CallKind
  fault : Fault
  persistent : Bool
deriving DecidableEq, Repr

/-- A call in the log, with the collection or the request id that it was about. -/
structure LoggedCall where
  kind : CallKind
  target : String
deriving DecidableEq, Repr

/-- A collection of the cluster. -/
structure Layout where
  shardCount : UInt32
  replicationFactor : UInt32
  optimized : Bool
deriving DecidableEq, Repr

/-- A queued job. Its work is done when it is queued; its status reveals the result over polls. -/
structure Job where
  sequence : Nat
  polls : Nat
  result : AdminResponse
deriving DecidableEq, Repr

/-- Calls that the log keeps. -/
def callLogCapacity : Nat := 1024

/-- Jobs that are known at once. -/
def maxTrackedJobs : Nat := 1024

/-- Polls after which a finished job is forgotten. -/
def terminalPollsRetained : Nat := 16

/-- The location of backups that are given none. -/
def defaultLocation : String := "default"

/-- The largest count of polls. -/
def maxPolls : Nat := UInt32.size - 1

/-- The state of a simulated cluster. -/
structure Cluster where
  config : Config
  collections : Table Layout := []
  /-- Per location and name the collection that was backed up. -/
  backups : Table (Table String) := []
  jobs : List (String × Job) := []
  faults : List Injected := []
  calls : List LoggedCall := []
  /-- How many jobs were ever queued. The number has 64 bits, so fewer than 2^64 submissions are
  meant wherever it is counted on. -/
  nextRequest : Nat := 0
deriving DecidableEq, Repr

namespace Cluster

/-- An empty cluster with the settings of a simulated one. -/
def default : Cluster := { config := Config.simulated }

/-- The layout of a new collection. -/
def newLayout (s : Cluster) : Layout := ⟨s.config.shardCount, s.config.replicationFactor, false⟩

/-- The location under which backups are kept for a request. -/
def locationKey (s : Cluster) (requested : Option String) : String :=
  (s.config.locationFor requested).getD defaultLocation

/-- The backups at a location. -/
def backupsAt (s : Cluster) (location : String) : Table String :=
  (s.backups.get? location).getD []

/-! ## Preparing a cluster -/

/-- Creates a collection, or replaces it by a new one. -/
def createCollection (s : Cluster) (name : String) : Cluster :=
  { s with collections := s.collections.insert name s.newLayout }

/-- Puts a backup of a collection at a location. -/
def addBackup (s : Cluster) (location : Option String) (name collection : String) : Cluster :=
  let key := s.locationKey location
  { s with backups := s.backups.insert key ((s.backupsAt key).insert name collection) }

/-- Adds a fault behind those that wait already. -/
def inject (s : Cluster) (kind : CallKind) (fault : Fault) (persistent : Bool) : Cluster :=
  { s with faults := s.faults ++ [⟨kind, fault, persistent⟩] }

/-! ## Seeing a cluster -/

def hasCollection (s : Cluster) (name : String) : Bool := s.collections.contains name

def isOptimized (s : Cluster) (name : String) : Bool :=
  ((s.collections.get? name).map (·.optimized)).getD false

/-- Shards and replicas of a collection. -/
def layout? (s : Cluster) (name : String) : Option (UInt32 × UInt32) :=
  (s.collections.get? name).map fun l => (l.shardCount, l.replicationFactor)

/-- The names of the backups for a requested location, in their order. -/
def backupNames (s : Cluster) (location : Option String) : List String :=
  (s.backupsAt (s.locationKey location)).names

/-- How many calls of a kind the log holds. -/
def callCount (s : Cluster) (kind : CallKind) : Nat := s.calls.countP (·.kind == kind)

end Cluster

end ClusterBackup.Simulated
