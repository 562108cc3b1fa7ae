/-
ClusterBackup.Service — what the service is called.
-/

namespace ClusterBackup.Service

def name : String := "collection-backup-orchestrator"

def version : String := "0.1.0"

/-- The name of the command. -/
def command : String := "collection-backup"

def description : String :=
  "Backup and restore orchestration for sharded document-store collections"

/-- Where the service listens unless told otherwise. -/
def defaultAddress : String := "0.0.0.0:8090"

end ClusterBackup.Service
