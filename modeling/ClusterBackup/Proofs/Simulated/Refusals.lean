/-
ClusterBackup.Proofs.Simulated.Refusals — what is refused changes nothing.

A caller may be refused for what it asks (an invalid argument), or for what
is already there (a failed precondition). The first is found out before
anything is touched. The second has a single place in the workflows, the
restore that finds its collection and is not forced, unless the cluster
answers with an error of this kind. A simulated cluster never does: its
errors are faults of the connection. So up to a refusal there were a
preparation and a look, and these leave no more than a line in the log.
-/
import ClusterBackup.Proofs.Simulated.Frame
import ClusterBackup.Proofs.Simulated.Upfront

namespace ClusterBackup

/-! ## Where a failed precondition comes from -/

/-- No call was answered with an error that is a failed precondition. -/
def Unconditional (t : List Exchange) : Prop :=
  ∀ call e, Answered t call (.error e) → e.kind ≠ .preconditionFailed

/-- Calls that ask whether a restore may start. -/
def Asks : AdminCall → Prop
  | .prepareRestore _ | .collectionExists _ => True
  | _ => False

variable {t : List Exchange} {o : Outcome}

theorem Unconditional.head_ne {call : AdminCall} {e : Error} {t : List Exchange}
    (h : Unconditional (⟨call, .error e⟩ :: t)) : e.kind ≠ .preconditionFailed :=
  h call e (.head t)

theorem Unconditional.tail {x : Exchange} {t : List Exchange} (h : Unconditional (x :: t)) :
    Unconditional t :=
  fun call e answered => h call e (.tail x answered)

theorem Backup.Course.kind_ne {spec : BackupSpec} (course : Course spec t o)
    (h : Unconditional t) : o.kind ≠ some .preconditionFailed := by
  cases course with
  | unanswered mode e => simpa using h.head_ne
  | answered mode r => simp
  | unsubmitted mode e => simpa using h.head_ne
  | submitted mode answer => cases answer <;> simp

theorem JobStatus.Course.kind_ne {operation : Operation} {requestId : String}
    (course : Course operation requestId t o) (h : Unconditional t) :
    o.kind ≠ some .preconditionFailed := by
  cases course with
  | blank nothing => nofun
  | unanswered something e => simpa using h.head_ne
  | @unrecognized _ raw e unknown =>
    rw [ofRaw?] at unknown
    split at unknown
    · cases unknown
      nofun
    · cases unknown
  | recognized something known =>
    rw [Outcome.kind_outcome]
    split <;> nofun

theorem Restore.Ending.kind_ne {spec : RestoreSpec} {q : SnapshotRequest}
    (ending : Ending spec q t o) (h : Unconditional t) : o.kind ≠ some .preconditionFailed := by
  cases ending with
  | unsubmitted mode e => simpa using h.head_ne
  | submitted mode answer => cases answer <;> simp
  | unanswered mode e => simpa using h.head_ne
  | unrestored mode r failure => simp
  | restored mode r success answer => simp

/-- A restore that fails its precondition has only asked so far. -/
theorem Restore.Course.asks_of_preconditionFailed {spec : RestoreSpec} (course : Course spec t o)
    (h : Unconditional t) (kind : o.kind = some .preconditionFailed) {call : AdminCall}
    (made : Made t call) : Asks call := by
  cases course with
  | unprepared e => exact absurd (by simpa using kind) h.head_ne
  | unchecked q e => exact absurd (by simpa using kind) h.tail.head_ne
  | refused q force =>
    simp only [made_cons, made_nil, or_false] at made
    rcases made with rfl | rfl <;> trivial
  | undeleted q force e =>
    exact absurd (by simpa [deleteFailed, Outcome.failed] using kind) h.tail.tail.head_ne
  | deletionRefused q force r failure => cases kind
  | absent q rest => exact absurd kind (rest.kind_ne h.tail.tail)
  | replaced q force r success rest => exact absurd kind (rest.kind_ne h.tail.tail.tail)

/-- Whatever fails its precondition has only asked so far. -/
theorem Errand.Course.asks_of_preconditionFailed {errand : Errand} (course : errand.Course t o)
    (h : Unconditional t) (kind : o.kind = some .preconditionFailed) {call : AdminCall}
    (made : Made t call) : Asks call := by
  cases errand with
  | backup spec => exact absurd kind (Backup.Course.kind_ne course h)
  | restore spec => exact Restore.Course.asks_of_preconditionFailed course h kind made
  | query operation requestId => exact absurd kind (JobStatus.Course.kind_ne course h)
  | refuse e =>
    rw [course.1] at made
    exact absurd made (made_nil call)

namespace Simulated

/-! ## On a simulated cluster -/

/-- The only errors of a simulated cluster are faults of the connection. -/
theorem Cluster.kind_of_answer_error {now : DateTime} {call : AdminCall} {s : Cluster} {e : Error}
    (answered : (answer now call s).1 = .error e) : e.kind = .transportFailure := by
  rw [answer_eq] at answered
  split at answered
  · next fault met =>
    cases fault with
    | unreachable reason => cases call <;> (cases answered; rfl)
    | respond r => cases call <;> cases answered
  · cases answered

/-- To ask whether a restore may start leaves a line in the log at most. -/
theorem Cluster.sameButLog_of_asks {call : AdminCall} (asks : Asks call) (now : DateTime)
    (s : Cluster) : SameButLog s (answer now call s).2 := by
  rcases sameButLog_answer now call s with same | ⟨-, same⟩
  · exact same
  · cases call with
    | prepareRestore r => exact same
    | collectionExists c => exact same
    | _ => exact asks.elim

/-- **What is refused changes nothing** but the log and the faults, whichever entry it comes
through: not as an invalid argument, and not for a precondition that failed. -/
theorem sameButLog_of_refusal (clock : Nat → DateTime) (entry : Entry) (s : Cluster)
    (refused : let o := (entry.workflow.run (.overTime fun n => client (clock n)) (s, 0)).result
      o.kind = some .invalidArgument ∨ o.kind = some .preconditionFailed) :
    SameButLog s (entry.workflow.run (.overTime fun n => client (clock n)) (s, 0)).state.1 := by
  rcases refused with argument | precondition
  · rw [(upfront clock).untouched entry s argument]
    exact .refl s
  have course := entry.course (.overTime fun n => client (clock n)) (s, 0)
  have unconditional : Unconditional
      (entry.workflow.transcript (.overTime fun n => client (clock n)) (s, 0)) := by
    intro call e answered
    obtain ⟨p, -, same⟩ := Workflow.answered_transcript_iff.mp answered
    have kind : e.kind = .transportFailure := Cluster.kind_of_answer_error same
    rw [kind]
    nofun
  refine related_run .refl .trans entry.workflow fun call s' n visited => ?_
  have asks := course.asks_of_preconditionFailed unconditional precondition
    (Workflow.made_of_mem_visits visited)
  exact Cluster.sameButLog_of_asks asks (clock n) s'

end Simulated

end ClusterBackup
