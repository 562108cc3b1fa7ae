/-
ClusterBackup.Proofs.Entry — every way into a workflow, and what it comes
down to.

Callers enter a workflow in six ways. Each of them settles first on one
`Errand`, without asking the cluster anything, then carries it out and
reports the outcome. What is proved of the four errands is therefore proved
of every entry, and `Errand.Course` puts the courses of all errands under one
roof.
-/
import ClusterBackup.Proofs.Backup.Course
import ClusterBackup.Proofs.Invocation
import ClusterBackup.Proofs.Restore.Course
import ClusterBackup.Proofs.Status.Course

namespace ClusterBackup

/-- What a caller asks for. -/
inductive Entry where
  | runBackup (r : JobRequest BackupSpec)
  | runRestore (r : JobRequest RestoreSpec)
  | backup (spec : BackupSpec)
  | restore (spec : RestoreSpec)
  | status (operation : Operation) (requestId : String)

/-- What is carried out. -/
inductive Errand where
  | backup (spec : BackupSpec)
  | restore (spec : RestoreSpec)
  | query (operation : Operation) (requestId : String)
  | refuse (e : Error)

namespace Errand

def workflow : Errand → Workflow Outcome
  | backup spec => Backup.execute spec
  | restore spec => Restore.execute spec
  | query operation requestId => JobStatus.query operation requestId
  | refuse e => pure (Outcome.ofError e)

/-- The errand that a request settles on. -/
def ofResolved {S : Type} (operation : Operation) (issue : S → Errand) :
    Except Error (Invocation S) → Errand
  | .ok (.issue spec) => issue spec
  | .ok (.status id) => query operation id
  | .error e => refuse e

/-- The courses of an errand. -/
def Course : Errand → List Exchange → Outcome → Prop
  | backup spec, t, o => Backup.Course spec t o
  | restore spec, t, o => Restore.Course spec t o
  | query operation requestId, t, o => JobStatus.Course operation requestId t o
  | refuse e, t, o => t = [] ∧ o = .ofError e

/-- Every errand takes one of its courses. -/
theorem course_workflow {σ : Type} (client : Client σ) (errand : Errand) (s : σ) :
    errand.Course (errand.workflow.transcript client s) (errand.workflow.run client s).result := by
  cases errand with
  | backup spec => exact Backup.course_execute client spec s
  | restore spec => exact Restore.course_execute client spec s
  | query operation requestId => exact JobStatus.course_query client operation requestId s
  | refuse e => exact ⟨rfl, rfl⟩

/-- No errand reports anything by itself. -/
theorem silent_workflow (errand : Errand) : errand.workflow.Silent := by
  cases errand with
  | backup spec => exact Backup.silent_execute spec
  | restore spec => exact Restore.silent_execute spec
  | query operation requestId => exact JobStatus.silent_query operation requestId
  | refuse e => trivial

end Errand

namespace Entry

def workflow : Entry → Workflow Outcome
  | runBackup r => Backup.run r
  | runRestore r => Restore.run r
  | backup spec => Backup.issue spec
  | restore spec => Restore.issue spec
  | status .backup requestId => Backup.status requestId
  | status .restore requestId => Restore.status requestId

/-- The errand that an entry settles on. -/
def errand : Entry → Errand
  | runBackup r => .ofResolved .backup .backup r.resolve
  | runRestore r => .ofResolved .restore .restore r.resolve
  | backup spec => .backup spec
  | restore spec => .restore spec
  | status operation requestId => .query operation requestId

/-- An entry carries its errand out and reports what it comes to. -/
theorem workflow_eq (e : Entry) : e.workflow = e.errand.workflow.reported := by
  cases e with
  | runBackup r =>
    simp only [workflow, errand, Backup.run]
    rcases r.resolve with e | (spec | id) <;> rfl
  | runRestore r =>
    simp only [workflow, errand, Restore.run]
    rcases r.resolve with e | (spec | id) <;> rfl
  | backup spec => rfl
  | restore spec => rfl
  | status operation requestId => cases operation <;> rfl

variable {σ : Type} (client : Client σ)

/-- Every entry takes a course of its errand. -/
theorem course (e : Entry) (s : σ) :
    e.errand.Course (e.workflow.transcript client s) (e.workflow.run client s).result := by
  rw [workflow_eq, Workflow.transcript_reported, Workflow.result_reported]
  exact e.errand.course_workflow client s

/-- Every entry is reported once, with what it comes to. -/
theorem reports_eq (e : Entry) (s : σ) :
    (e.workflow.run client s).reports = [Report.ofOutcome (e.workflow.run client s).result] := by
  rw [workflow_eq, Workflow.reports_reported client e.errand.silent_workflow,
    Workflow.result_reported]

end Entry

end ClusterBackup
