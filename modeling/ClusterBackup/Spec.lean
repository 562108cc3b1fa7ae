/-
ClusterBackup.Spec — what a caller asks for.

A specification names a collection, where its backup lies and under which
name, and whether to wait for the cluster or to queue a job. A restore may
also be forced over an existing collection. `SnapshotRequest` is the part
that the cluster is told, and `Mode` the part that it is not.
-/
import ClusterBackup.Collection

namespace ClusterBackup

/-- Wait for the cluster, or queue a job. -/
inductive Mode where
  | sync
  | async
deriving DecidableEq, Repr

def Mode.label : Mode → String
  | sync => "sync"
  | async => "async"

/-- The two workflows. -/
inductive Operation where
  | backup
  | restore
deriving DecidableEq, Repr

namespace Operation

/-- The operation within a sentence or an id. -/
def label : Operation → String
  | backup => "backup"
  | restore => "restore"

/-- The operation at the start of a sentence. -/
def title : Operation → String
  | backup => "Backup"
  | restore => "Restore"

end Operation

/-- What the cluster is told about a backup or a restore. -/
structure SnapshotRequest where
  collection : Collection
  location : Option String
  backupName : Option String
deriving DecidableEq, Repr

/-- A backup to be taken. -/
structure BackupSpec where
  collection : Collection
  location : Option String := none
  backupName : Option String := none
  mode : Mode := .sync
deriving DecidableEq, Repr

/-- A restore to be made. -/
structure RestoreSpec where
  collection : Collection
  location : Option String := none
  backupName : Option String := none
  mode : Mode := .sync
  /-- Delete the collection first if it exists. -/
  force : Bool := false
deriving DecidableEq, Repr

/-- What the cluster is told about the backup. -/
def BackupSpec.request (s : BackupSpec) : SnapshotRequest :=
  ⟨s.collection, s.location, s.backupName⟩

/-- What the cluster is told about the restore. -/
def RestoreSpec.request (s : RestoreSpec) : SnapshotRequest :=
  ⟨s.collection, s.location, s.backupName⟩

end ClusterBackup
