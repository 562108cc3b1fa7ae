/-
ClusterBackup.Snapshot.Directory — the latest backup in a directory.

The location of the backups is taken as the start of a pattern, so it may
hold wildcards, and the names that follow are those of backups named by
time.
-/
import ClusterBackup.FileTree.Glob
import ClusterBackup.Snapshot

namespace ClusterBackup.Snapshot

/-- The pattern of the backups at a location. -/
def patternAt (location : String) : String :=
  let names := namePrefix ++ "*"
  if location = "" then names
  else if location.endsWith "/" then location ++ names
  else location ++ "/" ++ names

def invalidPattern (fault : Glob.Fault) : Error :=
  .invalidArgument ("invalid location pattern: " ++ fault.message)

/-- The latest backup at a location, if there is one. -/
def resolve? (fs : FileSystem) (location : String) : Except Error (Option String) :=
  match Glob.parse? (patternAt location) with
  | .error fault => .error (invalidPattern fault)
  | .ok g => .ok (latest? (g.names fs))

end ClusterBackup.Snapshot
