/-
ClusterBackup.Error — what can go wrong, and what callers make of it.

One type of errors for the clients, the configuration and the watcher.
`message` is the full text, `cause` the text that an outcome quotes: for
the three errors that carry nothing but a reason, the reason alone.
`kind` sorts errors into the four kinds that outcomes, status codes and
counters know, and `isTransient` tells the ones a poll is repeated after.
-/

namespace ClusterBackup

/-- The kind of a failure, as callers tell them apart. -/
inductive FailureKind where
  | invalidArgument
  | preconditionFailed
  | clusterOperationFailed
  | transportFailure
deriving DecidableEq, Repr

/-- The kind in words joined by hyphens. -/
def FailureKind.label : FailureKind → String
  | invalidArgument => "invalid-argument"
  | preconditionFailed => "precondition-failed"
  | clusterOperationFailed => "cluster-operation-failed"
  | transportFailure => "transport-failure"

/-- An error. -/
inductive Error where
  | internal (reason : String)
  | configuration (reason : String)
  | invalidArgument (reason : String)
  | collectionExists (collection : String)
  | clusterOperation (operation collection reason : String)
  /-- No usable connection to the cluster. -/
  | transport (reason : String)
  /-- A connection of a simulated cluster that was made to fail. -/
  | connection (reason : String)
  /-- An answer that is not understood. -/
  | protocol (reason : String)
  | timeout (requestId elapsed : String)
  | jsonParse (reason : String)
  | yamlParse (reason : String)
  | io (reason : String)
  | metrics (reason : String)
deriving DecidableEq, Repr

namespace Error

/-- The full text. -/
def message : Error → String
  | internal reason => "Internal error: " ++ reason
  | configuration reason => "Configuration error: " ++ reason
  | invalidArgument reason => "Invalid argument: " ++ reason
  | collectionExists collection => "Collection already exists: " ++ collection
  | clusterOperation operation collection reason =>
    "Cluster operation failed: " ++ operation ++ " on " ++ collection ++ ": " ++ reason
  | transport reason => "Cluster unreachable: " ++ reason
  | connection reason => "Cluster connection error: " ++ reason
  | protocol reason => "Unexpected cluster response: " ++ reason
  | timeout requestId elapsed =>
    "Timed out waiting for request " ++ requestId ++ " after " ++ elapsed
  | jsonParse reason => "JSON parse error: " ++ reason
  | yamlParse reason => "YAML parse error: " ++ reason
  | io reason => "IO error: " ++ reason
  | metrics reason => "Metrics error: " ++ reason

/-- The kind of failure that the error is to a caller. -/
def kind : Error → FailureKind
  | invalidArgument _ | configuration _ => .invalidArgument
  | collectionExists _ => .preconditionFailed
  | clusterOperation .. | timeout .. => .clusterOperationFailed
  | transport _ | connection _ | protocol _ | jsonParse _ | yamlParse _ | io _ | metrics _
  | internal _ => .transportFailure

/-- Errors after which the same call may succeed. -/
def isTransient : Error → Bool
  | transport _ | connection _ => true
  | _ => false

/-- The text that an outcome quotes. -/
def cause : Error → String
  | invalidArgument reason | connection reason | protocol reason => reason
  | e => e.message

end Error

end ClusterBackup
