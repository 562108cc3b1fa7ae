/-
ClusterBackup.Proofs.Status.Course — every course that a status query can
take.

A query is a single call for the trimmed request id, or none at all when
nothing is left of the id.
-/
import ClusterBackup.Status
import ClusterBackup.Proofs.Workflow.Transcript

namespace ClusterBackup.JobStatus

/-- A whole query. -/
inductive Course (operation : Operation) (requestId : String) :
    List Exchange → Outcome → Prop where
  | blank (nothing : Text.trim requestId = "") :
      Course operation requestId [] (.ofError Invocation.missingId)
  | unanswered (something : Text.trim requestId ≠ "") (e : Error) :
      Course operation requestId [⟨.queryStatus (Text.trim requestId), .error e⟩] (.ofError e)
  | unrecognized (something : Text.trim requestId ≠ "") {raw : RawJobStatus} {e : Error}
      (unknown : ofRaw? (Text.trim requestId) raw = .error e) :
      Course operation requestId [⟨.queryStatus (Text.trim requestId), .ok raw⟩] (.ofError e)
  | recognized (something : Text.trim requestId ≠ "") {raw : RawJobStatus} {status : JobStatus}
      (known : ofRaw? (Text.trim requestId) raw = .ok status) :
      Course operation requestId [⟨.queryStatus (Text.trim requestId), .ok raw⟩]
        (status.outcome operation)

variable {σ : Type} (client : Client σ)

/-- Every query takes one of the courses. -/
theorem course_query (operation : Operation) (requestId : String) (s : σ) :
    Course operation requestId ((query operation requestId).transcript client s)
      ((query operation requestId).run client s).result := by
  unfold query fetch
  by_cases nothing : Text.trim requestId = ""
  · simp only [nothing, if_true]
    exact .blank nothing
  · simp only [nothing, if_false, Workflow.bind_eq, Workflow.call, Workflow.ask_bind,
      Workflow.done_bind, Workflow.transcript_ask, Workflow.run_ask]
    cases client.answer (.queryStatus (Text.trim requestId)) s |>.1 with
    | error e => exact .unanswered nothing e
    | ok raw =>
      simp only [Workflow.pure_eq_done, Workflow.done_bind]
      cases status : ofRaw? (Text.trim requestId) raw with
      | error e => exact .unrecognized nothing status
      | ok known => exact .recognized nothing status

/-- A query makes one call, unless there is nothing left of its id. -/
theorem Course.calls_eq {operation : Operation} {requestId : String}
    {t : List Exchange} {o : Outcome} (h : Course operation requestId t o)
    (something : Text.trim requestId ≠ "") :
    t.map (·.call) = [.queryStatus (Text.trim requestId)] := by
  cases h with
  | blank nothing => exact absurd nothing something
  | unanswered something e => rfl
  | unrecognized something unknown => rfl
  | recognized something known => rfl

/-- A query makes no call if there is nothing left of its id. -/
theorem Course.calls_eq_nil {operation : Operation} {requestId : String}
    {t : List Exchange} {o : Outcome} (h : Course operation requestId t o)
    (nothing : Text.trim requestId = "") : t.map (·.call) = [] := by
  cases h with
  | blank nothing => rfl
  | unanswered something e => exact absurd nothing something
  | unrecognized something unknown => exact absurd nothing something
  | recognized something known => exact absurd nothing something

/-- A query reports nothing by itself. -/
theorem silent_query (operation : Operation) (requestId : String) :
    (query operation requestId).Silent := by
  have fetched : (fetch requestId).Silent := by
    unfold fetch
    simp only
    split
    · trivial
    · refine (Workflow.silent_call _).bind fun answer => ?_
      cases answer <;> trivial
  refine fetched.bind fun answer => ?_
  cases answer <;> trivial

end ClusterBackup.JobStatus
