/-
ClusterBackup.Proofs.Outcome.WellFormed — outcomes that callers can rely
on.

Callers branch on the fields of an outcome: status codes, counters, exit
codes and waiting all do. `Outcome.WellFormed` is what the fields say of
one another; `Errand.Accepted` and `Errand.Found` are what the request id
and the status say of the call that the outcome came from.

`Settles` puts the three together for an errand, a transcript and an
outcome, and is proved course by course. Nearly every course ends in a
plain outcome, so `settles_plain` serves all of them; a job that was
accepted and a status that was found are the two that are not.
-/
import ClusterBackup.Proofs.Entry

namespace ClusterBackup

/-- What the fields of an outcome say of one another. -/
structure Outcome.WellFormed (o : Outcome) : Prop where
  /-- A failure has a kind, a success has none. -/
  success_iff : o.success = true ↔ o.kind = none
  errors_of_success : o.success = true → o.errors = []
  /-- A status is a success unless it is one of the two that tell of a problem. -/
  success_of_status : ∀ status, o.jobStatus = some status →
    (o.success = true ↔ status.state ≠ .failed ∧ status.state ≠ .notFound)
  errors_of_status : ∀ status, o.jobStatus = some status → o.errors = status.errors
  /-- Only a failed job lists failures. -/
  status_errors : ∀ status, o.jobStatus = some status → status.state ≠ .failed →
    status.errors = []
  apart : o.requestId = none ∨ o.jobStatus = none

/-- The errand was to queue a job, and the cluster accepted it under an id. -/
inductive Errand.Accepted (t : List Exchange) (id : String) : Errand → Prop where
  | backup {spec : BackupSpec} (mode : spec.mode = .async)
      (answered : Answered t (.submitBackup spec.request) (.ok (.accepted id))) :
      Accepted t id (.backup spec)
  | restore {spec : RestoreSpec} (mode : spec.mode = .async) {q : SnapshotRequest}
      (answered : Answered t (.submitRestore q) (.ok (.accepted id))) :
      Accepted t id (.restore spec)

/-- The errand was to ask for a status, and the cluster answered with a state that is known. -/
inductive Errand.Found (t : List Exchange) : JobStatus → Errand → Prop where
  | query {operation : Operation} {requestId : String} {raw : RawJobStatus} {state : JobState}
      (answered : Answered t (.queryStatus (Text.trim requestId)) (.ok raw))
      (known : JobState.ofRaw? raw.state = some state) :
      Found t
        ⟨Text.trim requestId, state, if state = .failed then raw.errors else [], raw.message⟩
        (.query operation requestId)

/-- An outcome is well-formed, and tells what came of the errand. -/
structure Settles (errand : Errand) (t : List Exchange) (o : Outcome) : Prop where
  wellFormed : o.WellFormed
  requestId_iff : ∀ id, o.requestId = some id ↔ errand.Accepted t id
  jobStatus_iff : ∀ status, o.jobStatus = some status ↔ errand.Found t status

/-! ## Outcomes that are well-formed -/

namespace Outcome

/-- An outcome without a status has nothing to say but whether it is a success. -/
theorem wellFormed_of_no_status {o : Outcome} (noStatus : o.jobStatus = none)
    (success_iff : o.success = true ↔ o.kind = none)
    (errors : o.success = true → o.errors = []) : o.WellFormed where
  success_iff := success_iff
  errors_of_success := errors
  success_of_status status found := by simp [noStatus] at found
  errors_of_status status found := by simp [noStatus] at found
  status_errors status found := by simp [noStatus] at found
  apart := .inr noStatus

/-- A failure of a kind is well-formed, whatever it lists. -/
theorem wellFormed_of_failure {o : Outcome} (plain : o.Plain) (failure : o.success = false)
    {kind : FailureKind} (known : o.kind = some kind) : o.WellFormed :=
  wellFormed_of_no_status plain.jobStatus (by simp [failure, known]) (by simp [failure])

variable (operation : Operation) (c : Collection)

theorem wellFormed_ofError (e : Error) : (ofError e).WellFormed :=
  wellFormed_of_failure (plain_ofError e) rfl rfl

theorem wellFormed_ofFailure (e : Error) : (ofFailure operation c e).WellFormed :=
  wellFormed_of_failure (plain_ofFailure operation c e) rfl rfl

theorem wellFormed_ofResponse (r : AdminResponse) : (ofResponse operation c r).WellFormed := by
  have plain := plain_ofResponse operation c r
  cases success : r.isSuccess with
  | true =>
    exact wellFormed_of_no_status plain.jobStatus (by simp [success])
      fun _ => (errors_ofResponse operation c r).trans (r.errors_of_isSuccess success)
  | false => exact wellFormed_of_failure plain (by simp [success]) (by simp [success]; rfl)

theorem wellFormed_ofSubmission : ∀ answer, (ofSubmission operation c answer).WellFormed
  | .accepted id => wellFormed_of_no_status rfl (by simp) fun _ => rfl
  | .rejected r =>
    wellFormed_of_failure (plain_ofSubmission_rejected operation c r) (by simp) (by simp; rfl)

/-- A warning changes the message alone. -/
theorem WellFormed.withWarning {o : Outcome} (h : o.WellFormed) (plain : o.Plain)
    (warning : Option String) : (Restore.withWarning o warning).WellFormed :=
  wellFormed_of_no_status (plain.withWarning warning).jobStatus (by simpa using h.success_iff)
    (by simpa using h.errors_of_success)

end Outcome

/-! ## What an outcome tells of its errand -/

section

variable {t : List Exchange}

theorem accepted_backup_iff {spec : BackupSpec} {id : String} :
    (Errand.backup spec).Accepted t id ↔
      spec.mode = .async ∧ Answered t (.submitBackup spec.request) (.ok (.accepted id)) :=
  ⟨fun | .backup mode answered => ⟨mode, answered⟩, fun h => .backup h.1 h.2⟩

theorem accepted_restore_iff {spec : RestoreSpec} {id : String} :
    (Errand.restore spec).Accepted t id ↔
      spec.mode = .async ∧ ∃ q, Answered t (.submitRestore q) (.ok (.accepted id)) :=
  ⟨fun | .restore mode answered => ⟨mode, _, answered⟩, fun ⟨mode, _, answered⟩ =>
    .restore mode answered⟩

theorem not_found_backup (spec : BackupSpec) (status : JobStatus) :
    ¬ (Errand.backup spec).Found t status := by
  intro found
  cases found

theorem not_found_restore (spec : RestoreSpec) (status : JobStatus) :
    ¬ (Errand.restore spec).Found t status := by
  intro found
  cases found

theorem not_accepted_query (operation : Operation) (requestId id : String) :
    ¬ (Errand.query operation requestId).Accepted t id := by
  intro accepted
  cases accepted

/-- A state that is known is what makes a status of an answer. -/
theorem JobStatus.ofRaw?_eq_ok_iff {id : String} {raw : RawJobStatus} {status : JobStatus} :
    ofRaw? id raw = .ok status ↔ ∃ state, JobState.ofRaw? raw.state = some state ∧
      status = ⟨id, state, if state = .failed then raw.errors else [], raw.message⟩ := by
  unfold ofRaw?
  cases JobState.ofRaw? raw.state with
  | none => simp
  | some state => simp [eq_comm]

theorem found_query_iff {operation : Operation} {requestId : String} {status : JobStatus} :
    (Errand.query operation requestId).Found t status ↔
      ∃ raw, Answered t (.queryStatus (Text.trim requestId)) (.ok raw) ∧
        JobStatus.ofRaw? (Text.trim requestId) raw = .ok status := by
  constructor
  · rintro ⟨answered, known⟩
    exact ⟨_, answered, JobStatus.ofRaw?_eq_ok_iff.mpr ⟨_, known, rfl⟩⟩
  · rintro ⟨raw, answered, translated⟩
    obtain ⟨state, known, rfl⟩ := JobStatus.ofRaw?_eq_ok_iff.mp translated
    exact .query answered known

/-- A plain outcome settles an errand that came to neither a job nor a status. -/
theorem settles_plain {errand : Errand} {o : Outcome} (wellFormed : o.WellFormed)
    (plain : o.Plain) (unaccepted : ∀ id, ¬ errand.Accepted t id)
    (unfound : ∀ status, ¬ errand.Found t status) : Settles errand t o where
  wellFormed := wellFormed
  requestId_iff id := by simp [plain.requestId, unaccepted id]
  jobStatus_iff status := by simp [plain.jobStatus, unfound status]

/-- The outcome of a submission has the id under which it was accepted, and nothing else. -/
theorem requestId_ofSubmission_iff (operation : Operation) (c : Collection) (answer : Submission)
    (id : String) :
    (Outcome.ofSubmission operation c answer).requestId = some id ↔ answer = .accepted id := by
  cases answer with
  | accepted id' => simp [Outcome.ofSubmission, Outcome.accepted]
  | rejected r => simp [(Outcome.plain_ofSubmission_rejected operation c r).requestId]

theorem jobStatus_ofSubmission (operation : Operation) (c : Collection) (answer : Submission) :
    (Outcome.ofSubmission operation c answer).jobStatus = none := by
  cases answer with
  | accepted id => rfl
  | rejected r => exact (Outcome.plain_ofSubmission_rejected operation c r).jobStatus

end

namespace Backup

theorem Course.settles {spec : BackupSpec} {t : List Exchange} {o : Outcome}
    (h : Course spec t o) : Settles (.backup spec) t o := by
  cases h with
  | unanswered mode e =>
    exact settles_plain (Outcome.wellFormed_ofFailure _ _ e) (Outcome.plain_ofFailure _ _ e)
      (by simp [accepted_backup_iff]) (not_found_backup spec)
  | answered mode r =>
    exact settles_plain (Outcome.wellFormed_ofResponse _ _ r) (Outcome.plain_ofResponse _ _ r)
      (by simp [accepted_backup_iff]) (not_found_backup spec)
  | unsubmitted mode e =>
    exact settles_plain (Outcome.wellFormed_ofFailure _ _ e) (Outcome.plain_ofFailure _ _ e)
      (by simp [accepted_backup_iff]) (not_found_backup spec)
  | submitted mode answer =>
    refine ⟨Outcome.wellFormed_ofSubmission _ _ answer, fun id => ?_, fun status => ?_⟩
    · rw [requestId_ofSubmission_iff, accepted_backup_iff]
      simp [mode, eq_comm]
    · simp [jobStatus_ofSubmission, not_found_backup]

end Backup

namespace Restore

variable {spec : RestoreSpec} {q : SnapshotRequest} {t : List Exchange} {o : Outcome}

theorem Ending.settles (h : Ending spec q t o) : Settles (.restore spec) t o := by
  cases h with
  | unsubmitted mode e =>
    exact settles_plain (Outcome.wellFormed_ofFailure _ _ e) (Outcome.plain_ofFailure _ _ e)
      (by simp [accepted_restore_iff]) (not_found_restore spec)
  | submitted mode answer =>
    refine ⟨Outcome.wellFormed_ofSubmission _ _ answer, fun id => ?_, fun status => ?_⟩
    · rw [requestId_ofSubmission_iff, accepted_restore_iff]
      simp [mode, eq_comm]
    · simp [jobStatus_ofSubmission, not_found_restore]
  | unanswered mode e =>
    exact settles_plain (Outcome.wellFormed_ofFailure _ _ e) (Outcome.plain_ofFailure _ _ e)
      (by simp [accepted_restore_iff]) (not_found_restore spec)
  | unrestored mode r failure =>
    exact settles_plain (Outcome.wellFormed_ofResponse _ _ r) (Outcome.plain_ofResponse _ _ r)
      (by simp [accepted_restore_iff]) (not_found_restore spec)
  | restored mode r success answer =>
    have plain := Outcome.plain_ofResponse .restore spec.collection r
    exact settles_plain ((Outcome.wellFormed_ofResponse _ _ r).withWarning plain _)
      (plain.withWarning _) (by simp [accepted_restore_iff]) (not_found_restore spec)

/-- What comes before the end of a restore has no part in its outcome. -/
theorem settles_after (before : List Exchange) (rest : Settles (.restore spec) t o)
    (unsubmitted : ∀ q, ¬ Made before (.submitRestore q)) :
    Settles (.restore spec) (before ++ t) o := by
  refine ⟨rest.wellFormed, fun id => ?_, fun status => ?_⟩
  · have same : ∀ q, Answered (before ++ t) (.submitRestore q) (.ok (.accepted id)) ↔
        Answered t (.submitRestore q) (.ok (.accepted id)) := fun q => by
      simp [answered_append, not_answered (unsubmitted q)]
    simp only [rest.requestId_iff, accepted_restore_iff, same]
  · simp [rest.jobStatus_iff, not_found_restore]

theorem Course.settles (h : Course spec t o) : Settles (.restore spec) t o := by
  cases h with
  | unprepared e =>
    exact settles_plain (Outcome.wellFormed_ofFailure _ _ e) (Outcome.plain_ofFailure _ _ e)
      (by simp [accepted_restore_iff]) (not_found_restore spec)
  | unchecked q e =>
    exact settles_plain (Outcome.wellFormed_ofFailure _ _ e) (Outcome.plain_ofFailure _ _ e)
      (by simp [accepted_restore_iff]) (not_found_restore spec)
  | refused q force =>
    have plain : (refusal spec.collection).Plain := Outcome.plain_failed _ _
    exact settles_plain (Outcome.wellFormed_of_failure plain rfl rfl) plain
      (by simp [accepted_restore_iff]) (not_found_restore spec)
  | undeleted q force e =>
    have plain : (deleteFailed e).Plain := Outcome.plain_failed _ _
    exact settles_plain (Outcome.wellFormed_of_failure plain rfl rfl) plain
      (by simp [accepted_restore_iff]) (not_found_restore spec)
  | deletionRefused q force r failure =>
    have plain : (deleteRefused r).Plain := (Outcome.plain_failed _ _).withErrors r.errors
    exact settles_plain (Outcome.wellFormed_of_failure plain rfl rfl) plain
      (by simp [accepted_restore_iff]) (not_found_restore spec)
  | absent q rest => exact settles_after [_, _] rest.settles (by simp)
  | replaced q force r success rest =>
    exact settles_after [_, _, _] rest.settles (by simp)

end Restore

namespace JobStatus

variable (operation : Operation) {status : JobStatus}

/-- A query lists the failures of the status that it found. -/
theorem errors_outcome (errors : status.state ≠ .failed → status.errors = []) :
    (status.outcome operation).errors = status.errors := by
  unfold outcome
  split
  · rfl
  · next noProblem =>
    have other : status.state ≠ .failed := fun failed => noProblem (by rw [failed]; rfl)
    exact (errors other).symm

/-- What a query found is well-formed if only failed jobs list failures. -/
theorem wellFormed_outcome (errors : status.state ≠ .failed → status.errors = []) :
    (status.outcome operation).WellFormed where
  success_iff := by
    rw [Outcome.success_outcome, Outcome.kind_outcome]
    cases status.state.isFailure <;> simp
  errors_of_success success := by
    rw [Outcome.success_outcome, Bool.not_eq_true', JobState.isFailure_eq_false_iff] at success
    rw [errors_outcome operation errors, errors success.1]
  success_of_status found same := by
    rw [Outcome.jobStatus_outcome, Option.some.injEq] at same
    rw [← same, Outcome.success_outcome, Bool.not_eq_true', JobState.isFailure_eq_false_iff]
  errors_of_status found same := by
    rw [Outcome.jobStatus_outcome, Option.some.injEq] at same
    rw [← same, errors_outcome operation errors]
  status_errors found same := by
    rw [Outcome.jobStatus_outcome, Option.some.injEq] at same
    exact same ▸ errors
  apart := .inl (Outcome.requestId_outcome operation status)

variable {operation} in
theorem Course.settles {requestId : String} {t : List Exchange} {o : Outcome}
    (h : Course operation requestId t o) : Settles (.query operation requestId) t o := by
  cases h with
  | blank nothing =>
    exact settles_plain (Outcome.wellFormed_ofError _) (Outcome.plain_ofError _)
      (not_accepted_query _ _) (by simp [found_query_iff])
  | unanswered something e =>
    exact settles_plain (Outcome.wellFormed_ofError e) (Outcome.plain_ofError e)
      (not_accepted_query _ _) (by simp [found_query_iff])
  | unrecognized something unknown =>
    exact settles_plain (Outcome.wellFormed_ofError _) (Outcome.plain_ofError _)
      (not_accepted_query _ _) (by simp [found_query_iff, unknown])
  | @recognized something raw status known =>
    refine ⟨wellFormed_outcome operation ?_, fun id => ?_, fun status' => ?_⟩
    · obtain ⟨state, -, rfl⟩ := ofRaw?_eq_ok_iff.mp known
      exact fun other => if_neg other
    · simp [Outcome.requestId_outcome, not_accepted_query]
    · simp [Outcome.jobStatus_outcome, found_query_iff, known]

end JobStatus

theorem Errand.Course.settles {errand : Errand} {t : List Exchange} {o : Outcome}
    (h : errand.Course t o) : Settles errand t o := by
  cases errand with
  | backup spec => exact Backup.Course.settles h
  | restore spec => exact Restore.Course.settles h
  | query operation requestId => exact JobStatus.Course.settles h
  | refuse e =>
    obtain ⟨rfl, rfl⟩ := h
    exact settles_plain (Outcome.wellFormed_ofError e) (Outcome.plain_ofError e)
      (fun id accepted => by cases accepted) (fun status found => by cases found)

/-- **Every outcome is well-formed and tells what came of its call**, whichever entry it comes
from and whatever the cluster answers: it has a request id exactly if a job was to be queued and
was accepted under that id, and a status exactly if one was asked for and was found. -/
theorem every_outcome_settles {σ : Type} (client : Client σ) (s : σ) (entry : Entry) :
    Settles entry.errand (entry.workflow.transcript client s)
      (entry.workflow.run client s).result :=
  (entry.course client s).settles

end ClusterBackup
