/-
ClusterBackup.Proofs.Backup.Course — every course that a backup can take.

A backup is a single call, and `Course` lists what it can be answered with
and what comes of it.
-/
import ClusterBackup.Backup
import ClusterBackup.Proofs.Workflow.Transcript

namespace ClusterBackup.Backup

/-- A whole backup. -/
inductive Course (spec : BackupSpec) : List Exchange → Outcome → Prop where
  | unanswered (mode : spec.mode = .sync) (e : Error) :
      Course spec [⟨.backup spec.request, .error e⟩] (.ofFailure .backup spec.collection e)
  | answered (mode : spec.mode = .sync) (r : AdminResponse) :
      Course spec [⟨.backup spec.request, .ok r⟩] (.ofResponse .backup spec.collection r)
  | unsubmitted (mode : spec.mode = .async) (e : Error) :
      Course spec [⟨.submitBackup spec.request, .error e⟩] (.ofFailure .backup spec.collection e)
  | submitted (mode : spec.mode = .async) (answer : Submission) :
      Course spec [⟨.submitBackup spec.request, .ok answer⟩]
        (.ofSubmission .backup spec.collection answer)

variable {σ : Type} (client : Client σ)

/-- Every backup takes one of the courses. -/
theorem course_execute (spec : BackupSpec) (s : σ) :
    Course spec ((execute spec).transcript client s) ((execute spec).run client s).result := by
  unfold execute
  cases mode : spec.mode with
  | sync =>
    simp only [Workflow.bind_eq, Workflow.call, Workflow.ask_bind, Workflow.done_bind,
      Workflow.transcript_ask, Workflow.run_ask]
    cases client.answer (.backup spec.request) s |>.1 with
    | error e => exact .unanswered mode e
    | ok r => exact .answered mode r
  | async =>
    simp only [Workflow.bind_eq, Workflow.call, Workflow.ask_bind, Workflow.done_bind,
      Workflow.transcript_ask, Workflow.run_ask]
    cases client.answer (.submitBackup spec.request) s |>.1 with
    | error e => exact .unsubmitted mode e
    | ok answer => exact .submitted mode answer

/-- A backup that is taken at once comes to what its call was answered with. -/
theorem result_execute_sync {spec : BackupSpec} (sync : spec.mode = .sync) (s : σ) :
    ((execute spec).run client s).result =
      match (client.answer (.backup spec.request) s).1 with
      | .ok r => .ofResponse .backup spec.collection r
      | .error e => .ofFailure .backup spec.collection e := by
  simp only [execute, sync, Workflow.bind_eq, Workflow.call, Workflow.ask_bind,
    Workflow.done_bind, Workflow.run_ask]
  cases (client.answer (.backup spec.request) s).1 with
  | error e => rfl
  | ok r => rfl

/-- The call that takes a backup, or queues it. -/
def carried (spec : BackupSpec) : AdminCall :=
  match spec.mode with
  | .sync => .backup spec.request
  | .async => .submitBackup spec.request

/-- A backup makes one call. -/
theorem Course.calls_eq {spec : BackupSpec} {t : List Exchange} {o : Outcome}
    (h : Course spec t o) : t.map (·.call) = [carried spec] := by
  cases h with
  | unanswered mode e => simp [carried, mode]
  | answered mode r => simp [carried, mode]
  | unsubmitted mode e => simp [carried, mode]
  | submitted mode answer => simp [carried, mode]

/-- A backup reports nothing by itself. -/
theorem silent_execute (spec : BackupSpec) : (execute spec).Silent := by
  unfold execute
  cases spec.mode with
  | sync =>
    refine (Workflow.silent_call _).bind fun answer => ?_
    cases answer <;> trivial
  | async =>
    refine (Workflow.silent_call _).bind fun answer => ?_
    cases answer <;> trivial

end ClusterBackup.Backup
