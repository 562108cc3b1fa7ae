/-
ClusterBackup.Proofs.Restore.Course — every course that a restore can take.

`Course` lists the transcripts of a restore with their outcomes, one
constructor for each place where a restore can stop; `Ending` lists those
of its last part, from the moment the way is free. `course_execute` says
that a restore takes one of these courses on every client. All that is
proved about restores is read off these two lists, so no later proof opens
the workflow again.
-/
import ClusterBackup.Proofs.Outcome
import ClusterBackup.Proofs.Workflow.Transcript

namespace ClusterBackup.Restore

/-- The call that carries a restore out, or queues it. -/
def carried (spec : RestoreSpec) (q : SnapshotRequest) : AdminCall :=
  match spec.mode with
  | .sync => .restore q
  | .async => .submitRestore q

/-- The last part of a restore: what it asks once the way is free, and what comes of it. -/
inductive Ending (spec : RestoreSpec) (q : SnapshotRequest) : List Exchange → Outcome → Prop where
  | unsubmitted (mode : spec.mode = .async) (e : Error) :
      Ending spec q [⟨.submitRestore q, .error e⟩] (.ofFailure .restore spec.collection e)
  | submitted (mode : spec.mode = .async) (answer : Submission) :
      Ending spec q [⟨.submitRestore q, .ok answer⟩]
        (.ofSubmission .restore spec.collection answer)
  | unanswered (mode : spec.mode = .sync) (e : Error) :
      Ending spec q [⟨.restore q, .error e⟩] (.ofFailure .restore spec.collection e)
  | unrestored (mode : spec.mode = .sync) (r : AdminResponse) (failure : r.isSuccess = false) :
      Ending spec q [⟨.restore q, .ok r⟩] (.ofResponse .restore spec.collection r)
  | restored (mode : spec.mode = .sync) (r : AdminResponse) (success : r.isSuccess = true)
      (answer : Except Error AdminResponse) :
      Ending spec q [⟨.restore q, .ok r⟩, ⟨.optimize spec.collection, answer⟩]
        (withWarning (.ofResponse .restore spec.collection r)
          (optimizeWarning spec.collection answer))

/-- A whole restore. -/
inductive Course (spec : RestoreSpec) : List Exchange → Outcome → Prop where
  | unprepared (e : Error) :
      Course spec [⟨.prepareRestore spec.request, .error e⟩]
        (.ofFailure .restore spec.collection e)
  | unchecked (q : SnapshotRequest) (e : Error) :
      Course spec [⟨.prepareRestore spec.request, .ok q⟩,
        ⟨.collectionExists spec.collection, .error e⟩] (.ofFailure .restore spec.collection e)
  | refused (q : SnapshotRequest) (force : spec.force = false) :
      Course spec [⟨.prepareRestore spec.request, .ok q⟩,
        ⟨.collectionExists spec.collection, .ok true⟩] (refusal spec.collection)
  | undeleted (q : SnapshotRequest) (force : spec.force = true) (e : Error) :
      Course spec [⟨.prepareRestore spec.request, .ok q⟩,
        ⟨.collectionExists spec.collection, .ok true⟩, ⟨.delete spec.collection, .error e⟩]
        (deleteFailed e)
  | deletionRefused (q : SnapshotRequest) (force : spec.force = true) (r : AdminResponse)
      (failure : r.isSuccess = false) :
      Course spec [⟨.prepareRestore spec.request, .ok q⟩,
        ⟨.collectionExists spec.collection, .ok true⟩, ⟨.delete spec.collection, .ok r⟩]
        (deleteRefused r)
  | absent (q : SnapshotRequest) {t : List Exchange} {o : Outcome} (rest : Ending spec q t o) :
      Course spec (⟨.prepareRestore spec.request, .ok q⟩ ::
        ⟨.collectionExists spec.collection, .ok false⟩ :: t) o
  | replaced (q : SnapshotRequest) (force : spec.force = true) (r : AdminResponse)
      (success : r.isSuccess = true) {t : List Exchange} {o : Outcome}
      (rest : Ending spec q t o) :
      Course spec (⟨.prepareRestore spec.request, .ok q⟩ ::
        ⟨.collectionExists spec.collection, .ok true⟩ ::
        ⟨.delete spec.collection, .ok r⟩ :: t) o

variable {σ : Type} (client : Client σ)

/-- Once the way is free, a restore comes to one of its endings. -/
theorem ending_carryOut (spec : RestoreSpec) (q : SnapshotRequest) (s : σ) :
    Ending spec q ((carryOut spec q).transcript client s)
      ((carryOut spec q).run client s).result := by
  unfold carryOut
  cases mode : spec.mode with
  | async =>
    simp only [Workflow.bind_eq, Workflow.call, Workflow.ask_bind, Workflow.done_bind,
      Workflow.transcript_ask, Workflow.run_ask]
    cases client.answer (.submitRestore q) s |>.1 with
    | error e => exact .unsubmitted mode e
    | ok answer => exact .submitted mode answer
  | sync =>
    simp only [Workflow.bind_eq, Workflow.call, Workflow.ask_bind, Workflow.done_bind,
      Workflow.transcript_ask, Workflow.run_ask]
    cases client.answer (.restore q) s |>.1 with
    | error e => exact .unanswered mode e
    | ok r =>
      cases success : r.isSuccess with
      | false =>
        simp only [Outcome.success_ofResponse, success]
        exact .unrestored mode r success
      | true =>
        simp only [Outcome.success_ofResponse, success]
        exact .restored mode r success _

/-- Every restore takes one of the courses. -/
theorem course_execute (spec : RestoreSpec) (s : σ) :
    Course spec ((execute spec).transcript client s) ((execute spec).run client s).result := by
  unfold execute
  simp only [Workflow.bind_eq, Workflow.call, Workflow.ask_bind, Workflow.done_bind,
    Workflow.transcript_ask, Workflow.run_ask]
  obtain ⟨prepared, s⟩ := client.answer (.prepareRestore spec.request) s
  cases prepared with
  | error e => exact .unprepared e
  | ok q =>
    simp only [Workflow.transcript_ask, Workflow.run_ask]
    obtain ⟨present, s⟩ := client.answer (.collectionExists spec.collection) s
    cases present with
    | error e => exact .unchecked q e
    | ok present =>
      cases present with
      | false => exact .absent q (ending_carryOut client spec q s)
      | true =>
        cases force : spec.force with
        | false => exact .refused q force
        | true =>
          simp only [if_true, Workflow.transcript_ask, Workflow.run_ask]
          obtain ⟨deleted, s⟩ := client.answer (.delete spec.collection) s
          cases deleted with
          | error e => exact .undeleted q force e
          | ok r =>
            cases success : r.isSuccess with
            | false =>
              simp only [success]
              exact .deletionRefused q force r success
            | true =>
              simp only [success]
              exact .replaced q force r success (ending_carryOut client spec q s)

theorem silent_carryOut (spec : RestoreSpec) (q : SnapshotRequest) :
    (carryOut spec q).Silent := by
  unfold carryOut
  cases spec.mode with
  | async =>
    refine (Workflow.silent_call _).bind fun answer => ?_
    cases answer <;> trivial
  | sync =>
    refine (Workflow.silent_call _).bind fun answer => ?_
    cases answer with
    | error e => trivial
    | ok r =>
      simp only
      split
      · exact (Workflow.silent_call _).bind fun _ => trivial
      · trivial

/-- A restore reports nothing by itself. -/
theorem silent_execute (spec : RestoreSpec) : (execute spec).Silent := by
  refine (Workflow.silent_call _).bind fun prepared => ?_
  rcases prepared with e | q
  · trivial
  refine (Workflow.silent_call _).bind fun present => ?_
  rcases present with e | _ | _
  · trivial
  · exact silent_carryOut spec q
  simp only
  split
  · refine (Workflow.silent_call _).bind fun deleted => ?_
    rcases deleted with e | r
    · trivial
    simp only
    split
    · exact silent_carryOut spec q
    · trivial
  · trivial

end ClusterBackup.Restore
