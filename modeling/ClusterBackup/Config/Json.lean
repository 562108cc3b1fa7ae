/-
ClusterBackup.Config.Json — settings as JSON.

Every member may be left out, and stands for its default then. Numbers are
whole and within the width of the setting.
-/
import ClusterBackup.Config
import ClusterBackup.Json.Reader

namespace ClusterBackup

open Json (Draft Fault)

/-- A number of 32 bits. -/
def Json.Draft.word32? (d : Draft) : Except Fault UInt32 := do
  return UInt32.ofNat (← d.int? 0 (UInt32.size - 1)).toNat

/-- A number of 64 bits. -/
def Json.Draft.word64? (d : Draft) : Except Fault UInt64 := do
  return UInt64.ofNat (← d.int? 0 (UInt64.size - 1)).toNat

namespace Config

/-- The settings, in their order. -/
def fieldNames : List String :=
  ["clientKind", "baseUrl", "shardCount", "replicationFactor", "maxShardsPerNode",
    "defaultLocation", "requestTimeoutSecs", "simulatedJobPolls"]

def toJson (c : Config) : Json :=
  .object [("clientKind", .string c.clientKind), ("baseUrl", .string c.baseUrl),
    ("shardCount", .ofNat c.shardCount.toNat),
    ("replicationFactor", .ofNat c.replicationFactor.toNat),
    ("maxShardsPerNode", .ofNat c.maxShardsPerNode.toNat),
    ("defaultLocation", .ofText? c.defaultLocation),
    ("requestTimeoutSecs", .ofNat c.requestTimeoutSecs.toNat),
    ("simulatedJobPolls", .ofNat c.simulatedJobPolls.toNat)]

def read (d : Draft) : Except Fault Config := do
  let r ← d.record fieldNames
  let base : Config := {}
  let clientKind ← r.defaulted "clientKind" base.clientKind Draft.text?
  let baseUrl ← r.defaulted "baseUrl" base.baseUrl Draft.text?
  let shardCount ← r.defaulted "shardCount" base.shardCount Draft.word32?
  let replicationFactor ← r.defaulted "replicationFactor" base.replicationFactor Draft.word32?
  let maxShardsPerNode ← r.defaulted "maxShardsPerNode" base.maxShardsPerNode Draft.word32?
  let defaultLocation ←
    r.defaulted "defaultLocation" base.defaultLocation (Draft.optional? Draft.text?)
  let requestTimeoutSecs ← r.defaulted "requestTimeoutSecs" base.requestTimeoutSecs Draft.word64?
  let simulatedJobPolls ← r.defaulted "simulatedJobPolls" base.simulatedJobPolls Draft.word32?
  return { clientKind, baseUrl, shardCount, replicationFactor, maxShardsPerNode, defaultLocation,
           requestTimeoutSecs, simulatedJobPolls }

end Config

end ClusterBackup
