/-
ClusterBackup.Proofs.Outcome — which answers make a success, and which
kinds of failure the others make.

One equation for each way in which an outcome is made of an answer. A
refusal of a job is never a success, not even one that looks like it, and
a warning takes no success away. Whatever the cluster answers is a failed
operation at worst; only an error brings a kind of its own. Most outcomes
are plain: they have neither a request id nor the status of a job.
-/
import ClusterBackup.Restore

namespace ClusterBackup

/-- Two states tell of a problem with the job. -/
theorem JobState.isFailure_eq_false_iff (state : JobState) :
    state.isFailure = false ↔ state ≠ .failed ∧ state ≠ .notFound := by
  cases state <;> simp [isFailure]

/-- A response that is a success lists no failures. -/
theorem AdminResponse.errors_of_isSuccess {r : AdminResponse} (success : r.isSuccess = true) :
    r.errors = [] := by
  rw [isSuccess, Bool.and_eq_true, List.isEmpty_iff] at success
  exact success.2

namespace Outcome

variable (operation : Operation) (c : Collection)

/-! ## Success -/

@[simp] theorem success_failed (kind : FailureKind) (message : String) :
    (failed kind message).success = false := rfl

@[simp] theorem success_withErrors (o : Outcome) (errors : List FailureDetail) :
    (o.withErrors errors).success = o.success := rfl

@[simp] theorem success_ofFailure (e : Error) : (ofFailure operation c e).success = false := rfl

/-- The outcome of a response is a success exactly if the response is one. -/
@[simp] theorem success_ofResponse (r : AdminResponse) :
    (ofResponse operation c r).success = r.isSuccess := by
  unfold ofResponse
  split
  · next h => exact h.symm
  · next h => simpa using h

@[simp] theorem success_ofSubmission_accepted (id : String) :
    (ofSubmission operation c (.accepted id)).success = true := rfl

@[simp] theorem success_ofSubmission_rejected (r : AdminResponse) :
    (ofSubmission operation c (.rejected r)).success = false := by
  rw [ofSubmission]
  split
  · rfl
  · next h => simpa using h

@[simp] theorem success_outcome (status : JobStatus) :
    (status.outcome operation).success = !status.state.isFailure := by
  unfold JobStatus.outcome
  split <;> simp_all [withErrors, withJobStatus, failed, succeeded]

@[simp] theorem success_withWarning (o : Outcome) (warning : Option String) :
    (Restore.withWarning o warning).success = o.success := by
  cases warning <;> rfl

/-! ## The kind of a failure -/

@[simp] theorem kind_ofError (e : Error) : (ofError e).kind = some e.kind := rfl

@[simp] theorem kind_ofFailure (e : Error) : (ofFailure operation c e).kind = some e.kind := rfl

@[simp] theorem kind_ofResponse (r : AdminResponse) :
    (ofResponse operation c r).kind =
      if r.isSuccess then none else some .clusterOperationFailed := by
  unfold ofResponse
  split <;> rfl

@[simp] theorem kind_ofSubmission_accepted (id : String) :
    (ofSubmission operation c (.accepted id)).kind = none := rfl

@[simp] theorem kind_ofSubmission_rejected (r : AdminResponse) :
    (ofSubmission operation c (.rejected r)).kind = some .clusterOperationFailed := by
  cases success : r.isSuccess with
  | true => simp [ofSubmission, success, failed]
  | false => simp [ofSubmission, success]

@[simp] theorem kind_withWarning (o : Outcome) (warning : Option String) :
    (Restore.withWarning o warning).kind = o.kind := by
  cases warning <;> rfl

@[simp] theorem kind_outcome (status : JobStatus) :
    (status.outcome operation).kind =
      if status.state.isFailure then some .clusterOperationFailed else none := by
  unfold JobStatus.outcome
  split <;> rfl

/-! ## The failures that are listed -/

/-- An outcome lists what the response listed. -/
@[simp] theorem errors_ofResponse (r : AdminResponse) :
    (ofResponse operation c r).errors = r.errors := by
  unfold ofResponse
  split
  · next success => exact (AdminResponse.errors_of_isSuccess success).symm
  · rfl

@[simp] theorem errors_ofSubmission_rejected (r : AdminResponse) :
    (ofSubmission operation c (.rejected r)).errors = r.errors := by
  rw [ofSubmission]
  split
  · next success => exact (AdminResponse.errors_of_isSuccess success).symm
  · exact errors_ofResponse operation c r

@[simp] theorem errors_withWarning (o : Outcome) (warning : Option String) :
    (Restore.withWarning o warning).errors = o.errors := by
  cases warning <;> rfl

/-! ## What a query is about -/

theorem requestId_outcome (status : JobStatus) : (status.outcome operation).requestId = none := by
  unfold JobStatus.outcome
  split <;> rfl

theorem jobStatus_outcome (status : JobStatus) :
    (status.outcome operation).jobStatus = some status := by
  unfold JobStatus.outcome
  split <;> rfl

/-! ## Plain outcomes -/

/-- Outcomes that are neither about a job that was queued nor about the status of one. -/
structure Plain (o : Outcome) : Prop where
  requestId : o.requestId = none
  jobStatus : o.jobStatus = none

theorem plain_succeeded (message : String) : (succeeded message).Plain := ⟨rfl, rfl⟩

theorem plain_failed (kind : FailureKind) (message : String) : (failed kind message).Plain :=
  ⟨rfl, rfl⟩

theorem plain_ofError (e : Error) : (ofError e).Plain := plain_failed e.kind e.cause

theorem plain_ofFailure (e : Error) : (ofFailure operation c e).Plain := plain_failed _ _

theorem Plain.withErrors {o : Outcome} (h : o.Plain) (errors : List FailureDetail) :
    (o.withErrors errors).Plain :=
  ⟨h.requestId, h.jobStatus⟩

theorem Plain.withWarning {o : Outcome} (h : o.Plain) (warning : Option String) :
    (Restore.withWarning o warning).Plain := by
  cases warning with
  | none => exact h
  | some text => exact ⟨h.requestId, h.jobStatus⟩

theorem plain_ofResponse (r : AdminResponse) : (ofResponse operation c r).Plain := by
  unfold ofResponse
  split
  · exact plain_succeeded _
  · exact (plain_failed _ _).withErrors _

theorem plain_ofSubmission_rejected (r : AdminResponse) :
    (ofSubmission operation c (.rejected r)).Plain := by
  rw [ofSubmission]
  split
  · exact plain_failed _ _
  · exact plain_ofResponse operation c r

end Outcome

end ClusterBackup
