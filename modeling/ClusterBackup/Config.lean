/-
ClusterBackup.Config — how to reach a cluster, and how it is laid out.

Every setting has a default. `validate` names the first setting with which
no call could succeed, and `locationFor` is the rule by which a requested
location and the configured one give the location of a backup: a blank
request counts as none, the configured location is taken as it is.
-/
import ClusterBackup.Text.Blank
import ClusterBackup.Error

namespace ClusterBackup

/-- The settings of a client. -/
structure Config where
  /-- Which kind of client to make. -/
  clientKind : String := "http"
  baseUrl : String := "http://localhost:8983/solr"
  /-- Shards of a restored collection. -/
  shardCount : UInt32 := 2
  /-- Replicas of each shard of a restored collection. -/
  replicationFactor : UInt32 := 2
  maxShardsPerNode : UInt32 := 2
  /-- Where backups lie unless a request says otherwise. -/
  defaultLocation : Option String := none
  requestTimeoutSecs : UInt64 := 600
  /-- Status queries that a job of the simulated cluster takes to finish. -/
  simulatedJobPolls : UInt32 := 3
deriving DecidableEq, Repr

namespace Config

/-- The settings of a simulated cluster. -/
def simulated : Config := { clientKind := "memory" }

def emptyUrl : Error := .configuration "base URL must not be empty"
def noShards : Error := .configuration "shard count must be at least 1"
def noReplicas : Error := .configuration "replication factor must be at least 1"
def noShardsPerNode : Error := .configuration "max shards per node must be at least 1"

/-- Refuses settings with which no call could succeed. -/
def validate (c : Config) : Except Error Unit :=
  if Text.isBlank c.baseUrl then .error emptyUrl
  else if c.shardCount = 0 then .error noShards
  else if c.replicationFactor = 0 then .error noReplicas
  else if c.maxShardsPerNode = 0 then .error noShardsPerNode
  else .ok ()

/-- The location for a request. -/
def locationFor (c : Config) (requested : Option String) : Option String :=
  match requested.bind Text.nonBlank? with
  | some location => some location
  | none => c.defaultLocation

end Config

end ClusterBackup
