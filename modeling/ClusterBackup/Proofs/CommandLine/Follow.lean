/-
ClusterBackup.Proofs.CommandLine.Follow — what a command that waits makes of
the job that it is about.

The `Subject` of a command is the job that it is about: the one that it is to
queue, the one that a flag of a backup or a restore has it ask about, or the
one that the status command names. `Subject.Succeeds` reads the success of
the command off the calls of its run. A job that was queued or named is
waited for, so it must have been completed. But a backup or a restore that
is told by the flag to ask about a job asks once, whether or not it is to
wait, and a job that goes on is no failure.

The proof goes by errands: what comes after an errand that queues a job is a
wait, what comes after a query is nothing. It is about any client, whatever
it answers and whatever the clock shows.
-/
import ClusterBackup.CommandLine
import ClusterBackup.Proofs.Outcome.WellFormed
import ClusterBackup.Proofs.Restore.Protocol
import ClusterBackup.Proofs.Watch.Verdict

namespace ClusterBackup

/-! ## Waits -/

namespace Watch

variable {σ : Type} (client : Client σ)

/-- Nothing is asked for a blank request id. -/
theorem wait_of_blank (w : Watch) (clock : Stopwatch) {requestId : String}
    (blank : Text.trim requestId = "") :
    w.wait clock requestId = .done (.error Invocation.missingId) := by
  have polled : poll requestId =
      .done (.error (.permanent (.unreachable Invocation.missingId))) := by
    simp [poll, JobStatus.fetch, blank, attempt, Invocation.missingId, Error.isTransient]
  rw [wait, retryFrom_eq, polled]
  simp [settle?, conclude, Invocation.missingId, Error.isTransient]

/-- A wait asks for the trimmed request id and for nothing else. -/
theorem call_of_mem_wait (w : Watch) (clock : Stopwatch) {requestId : String} {s : σ} {x : Exchange}
    (inside : x ∈ (w.wait clock requestId).transcript client s) :
    x.call = .queryStatus (Text.trim requestId) := by
  by_cases blank : Text.trim requestId = ""
  · rw [wait_of_blank w clock blank] at inside
    cases inside
  · exact (course_wait client w clock blank s).1 x inside

/-- A wait comes to a status exactly if its last poll found it, and found the job ended. -/
theorem wait_eq_ok_iff (w : Watch) (clock : Stopwatch) (requestId : String) (s : σ)
    (status : JobStatus) :
    ((w.wait clock requestId).run client s).result = .ok status ↔
      (findings ((w.wait clock requestId).transcript client s)).getLast? = some (.ok status) ∧
        status.state.isTerminal = true := by
  by_cases blank : Text.trim requestId = ""
  · rw [wait_of_blank w clock blank]
    simp [findings]
  · obtain ⟨earlier, last, all, -, -, ends⟩ := (course_wait client w clock blank s).2.eq_concat
    rw [ends.ok_iff, all, List.getLast?_concat, Option.some.injEq]
    constructor
    · rintro ⟨final, rfl⟩
      exact ⟨rfl, final⟩
    · rintro ⟨rfl, final⟩
      exact ⟨final, rfl⟩

/-- Where nothing is polled, nothing is found. -/
theorem findings_eq_nil {t : List Exchange} (unpolled : ∀ id, ¬ Made t (.queryStatus id)) :
    findings t = [] := by
  refine List.filterMap_eq_nil_iff.mpr fun x inside => ?_
  obtain ⟨call, answer⟩ := x
  cases call with
  | queryStatus id => exact absurd (List.mem_map.mpr ⟨_, inside, rfl⟩) (unpolled id)
  | _ => rfl

end Watch

/-- A job that ended and is no failure is completed. -/
theorem JobState.eq_completed_iff (state : JobState) :
    state = .completed ↔ state.isTerminal = true ∧ state.isFailure = false := by
  cases state <;> simp [isTerminal, isFailure]

/-! ## Errands -/

/-- A job was accepted under the id. -/
def AcceptedIn (t : List Exchange) (id : String) : Prop :=
  ∃ r, Answered t (.submitBackup r) (.ok (.accepted id)) ∨
    Answered t (.submitRestore r) (.ok (.accepted id))

theorem AcceptedIn.append {t : List Exchange} {id : String} (h : AcceptedIn t id)
    (rest : List Exchange) : AcceptedIn (t ++ rest) id := by
  obtain ⟨r, answered⟩ := h
  exact ⟨r, answered.imp (List.mem_append_left rest) (List.mem_append_left rest)⟩

namespace Errand

/-- The errand is to queue a job. -/
def Queues : Errand → Prop
  | backup spec => spec.mode = .async
  | restore spec => spec.mode = .async
  | query _ _ | refuse _ => False

theorem queues_backup (spec : BackupSpec) (async : JobSpec.mode spec = .async) :
    (backup spec).Queues := async

theorem queues_restore (spec : RestoreSpec) (async : JobSpec.mode spec = .async) :
    (restore spec).Queues := async

variable {errand : Errand} {t : List Exchange} {o : Outcome}

/-- Queueing a job polls nothing. -/
theorem Queues.unpolled (queues : errand.Queues) (course : errand.Course t o) (id : String) :
    ¬ Made t (.queryStatus id) := by
  cases errand with
  | backup spec =>
    have calls := Backup.Course.calls_eq course
    rw [Made, calls, List.mem_singleton, Backup.carried]
    cases spec.mode <;> simp
  | restore spec =>
    obtain ⟨q, order⟩ := Restore.Course.order course
    intro made
    have scripted := order.subset made
    simp [Restore.script, (Restore.carried_ne_queryStatus spec q id).symm] at scripted
  | query operation requestId => cases queues
  | refuse e => cases queues

/-- A job that was queued is one that was accepted, under the id of the outcome. -/
theorem Queues.accepted_of_requestId (course : errand.Course t o) {id : String}
    (found : o.requestId = some id) : AcceptedIn t id := by
  cases (course.settles.requestId_iff id).mp found with
  | backup mode answered => exact ⟨_, .inl answered⟩
  | restore mode answered => exact ⟨_, .inr answered⟩

/-- Queueing a job succeeds only with an id. -/
theorem Queues.exists_requestId (queues : errand.Queues) (course : errand.Course t o)
    (success : o.success = true) : ∃ id, o.requestId = some id := by
  have accepted : ∃ id, errand.Accepted t id := by
    cases errand with
    | backup spec =>
      cases course with
      | submitted mode answer =>
        cases answer with
        | accepted id => exact ⟨id, .backup mode (by simp)⟩
        | rejected r => simp at success
      | unsubmitted mode e => simp at success
      | unanswered mode e => simp [Queues, mode] at queues
      | answered mode r => simp [Queues, mode] at queues
    | restore spec =>
      obtain ⟨q, id, answered⟩ := (Restore.Course.async_success_iff course queues).mp success
      exact ⟨id, .restore queues answered⟩
    | query operation requestId => cases queues
    | refuse e => cases queues
  obtain ⟨id, accepted⟩ := accepted
  exact ⟨id, (course.settles.requestId_iff id).mpr accepted⟩

end Errand

namespace CommandLine

/-! ## What a command is about -/

/-- How a command knows the job that it is about. -/
inductive Subject where
  /-- The command is to queue it. -/
  | queued
  /-- A flag has a backup or a restore ask about it; the request id should be given, too. -/
  | asked (requestId : Option String)
  /-- The status command names it. -/
  | named (requestId : String)

def JobArguments.subject? (a : JobArguments) : Option Subject :=
  if a.status then some (.asked a.requestId) else if a.async then some .queued else none

namespace Command

/-- The job that a command is about; none if it waits for no job. -/
def subject? : Command → Option Subject
  | backup a | restore a _ => a.subject?
  | status requestId _ _ => some (.named requestId)
  | serve _ => none

/-- The command was told to wait. -/
def waits : Command → Bool
  | backup a | restore a _ => a.waiting.wait
  | status _ _ w => w.wait
  | serve _ => false

end Command

/-- No other request is polled. -/
def PollsOnly (t : List Exchange) (requestId : String) : Prop :=
  ∀ id, Made t (.queryStatus id) → id = Text.trim requestId

/-- The last poll found a job in the state. -/
def LastFound (t : List Exchange) (state : JobState) : Prop :=
  ∃ status, (Watch.findings t).getLast? = some (.ok status) ∧ status.state = state

/-- The calls of a run make a success of a command with the subject. -/
inductive Subject.Succeeds (t : List Exchange) : Subject → Prop where
  | queued {id : String} (accepted : AcceptedIn t id) (polls : PollsOnly t id)
      (last : LastFound t .completed) : Succeeds t .queued
  /-- The only call is one poll, and the job may still go on. -/
  | asked {id : String} (polls : PollsOnly t id) (once : t.length = 1) {state : JobState}
      (last : LastFound t state) (noFailure : state.isFailure = false) :
      Succeeds t (.asked (some id))
  | named {id : String} (polls : PollsOnly t id) (last : LastFound t .completed) :
      Succeeds t (.named id)

theorem not_lastFound_of_unpolled {t : List Exchange} (unpolled : Watch.findings t = [])
    (state : JobState) : ¬ LastFound t state := by
  rintro ⟨status, found, -⟩
  rw [unpolled] at found
  cases found

/-- There is no success without a poll. -/
theorem not_succeeds_of_unpolled {t : List Exchange} (unpolled : Watch.findings t = [])
    (subject : Subject) : ¬ subject.Succeeds t := by
  have unfound := not_lastFound_of_unpolled unpolled
  intro success
  cases success with
  | queued accepted polls last => exact unfound _ last
  | asked polls once last noFailure => exact unfound _ last
  | named polls last => exact unfound _ last

/-- Calls that poll nothing have no part in what the last poll found. -/
theorem lastFound_append_iff {t : List Exchange} (unpolled : Watch.findings t = [])
    (t' : List Exchange) (state : JobState) : LastFound (t ++ t') state ↔ LastFound t' state := by
  simp only [LastFound, Watch.findings] at unpolled ⊢
  rw [List.filterMap_append, unpolled, List.nil_append]

/-! ## Waiting for a job -/

variable {σ : Type} (client : Client σ) (clock : Watch → Stopwatch) (operation : Operation)
  {w : Waiting}

/-- The conclusion of a wait is a success if the wait came to a status that is no failure. -/
theorem result_conclude_iff (requestId : String) (verdict : Except Error JobStatus) (s : σ) :
    ((conclude operation requestId verdict).run client s).result = .ok true ↔
      ∃ status, verdict = .ok status ∧ status.state.isFailure = false := by
  cases verdict with
  | error e => simp [conclude]
  | ok status => simp [conclude, Workflow.run]

/-- The conclusion of a wait makes no call. -/
theorem transcript_conclude (requestId : String) (verdict : Except Error JobStatus) (s : σ) :
    (conclude operation requestId verdict).transcript client s = [] := by
  cases verdict with
  | error e => rfl
  | ok status => rfl

/-- The calls of a command that waits for a job are those of the wait. -/
theorem transcript_watchJob (requestId : String) (s : σ) :
    (watchJob clock operation w requestId).transcript client s =
      (w.watch.wait (clock w.watch) requestId).transcript client s := by
  rw [watchJob, Workflow.transcript_bind, transcript_conclude, List.append_nil]

theorem pollsOnly_watchJob (requestId : String) (s : σ) :
    PollsOnly ((watchJob clock operation w requestId).transcript client s) requestId := by
  intro id made
  rw [transcript_watchJob] at made
  obtain ⟨x, inside, poll⟩ := List.mem_map.mp made
  have same := Watch.call_of_mem_wait client w.watch (clock w.watch) inside
  rw [poll] at same
  exact AdminCall.queryStatus.inj same

/-- A command that waits for a job is a success if the last poll found the job completed. -/
theorem result_watchJob_iff (requestId : String) (s : σ) :
    ((watchJob clock operation w requestId).run client s).result = .ok true ↔
      LastFound ((watchJob clock operation w requestId).transcript client s) .completed := by
  rw [transcript_watchJob, watchJob, Workflow.run_bind]
  simp only [result_conclude_iff, Watch.wait_eq_ok_iff, LastFound, JobState.eq_completed_iff,
    and_assoc]

/-! ## Going on after an errand -/

section

variable {workflow : Workflow Outcome} {s : σ}

/-- After an outcome without a request id there is nothing to wait for. -/
theorem bind_follow_of_no_request (none : (workflow.run client s).result.requestId = none) :
    ((workflow.bind (follow clock operation w)).run client s).result =
        .ok (workflow.run client s).result.success ∧
      (workflow.bind (follow clock operation w)).transcript client s =
        workflow.transcript client s := by
  have ends : follow clock operation w (workflow.run client s).result =
      .done (.ok (workflow.run client s).result.success) := by
    simp [follow, Waiting.awaited, none]
  simp [Workflow.run_bind, Workflow.transcript_bind, ends]

/-- A job that was to be queued is waited for, if it was accepted. -/
theorem queued_succeeds_iff {errand : Errand} (queues : errand.Queues)
    (course : errand.Course (workflow.transcript client s) (workflow.run client s).result)
    (waits : w.wait = true) :
    ((workflow.bind (follow clock operation w)).run client s).result = .ok true ↔
      Subject.queued.Succeeds
        ((workflow.bind (follow clock operation w)).transcript client s) := by
  have unpolled := queues.unpolled course
  have unfound := Watch.findings_eq_nil unpolled
  cases found : (workflow.run client s).result.requestId with
  | none =>
    have failure : (workflow.run client s).result.success ≠ true := fun success => by
      obtain ⟨id, given⟩ := queues.exists_requestId course success
      rw [found] at given
      cases given
    obtain ⟨result, transcript⟩ := bind_follow_of_no_request client clock operation (w := w) found
    rw [result, transcript]
    exact iff_of_false (by simpa using failure) (not_succeeds_of_unpolled unfound _)
  | some id =>
    have goesOn : follow clock operation w (workflow.run client s).result =
        watchJob clock operation w id := by
      simp [follow, Waiting.awaited, waits, found]
    simp only [Workflow.run_bind, Workflow.transcript_bind, goesOn, result_watchJob_iff]
    constructor
    · intro last
      refine .queued ((Errand.Queues.accepted_of_requestId course found).append _) ?_
        ((lastFound_append_iff unfound _ _).mpr last)
      intro id' made
      rw [Made, List.map_append, List.mem_append] at made
      rcases made with early | late
      · exact absurd early (unpolled id')
      · exact pollsOnly_watchJob client clock operation id _ id' late
    · rintro ⟨accepted, polls, last⟩
      exact (lastFound_append_iff unfound _ _).mp last

/-- A query polls the request that it is for. -/
theorem pollsOnly_of_query {requestId : String} {t : List Exchange} {o : Outcome}
    (course : JobStatus.Course operation requestId t o) : PollsOnly t requestId := by
  intro id made
  cases course <;> simp at made <;> exact made

/-- A query that found a state is one call. -/
theorem length_of_query {requestId : String} {t : List Exchange} {o : Outcome}
    (course : JobStatus.Course operation requestId t o) {state : JobState}
    (last : LastFound t state) : t.length = 1 := by
  cases course with
  | blank nothing => exact absurd last (not_lastFound_of_unpolled rfl state)
  | unanswered something e => rfl
  | unrecognized something unknown => rfl
  | recognized something known => rfl

/-- A query is a success if it found a state that is no failure. -/
theorem success_of_query_iff {requestId : String} {t : List Exchange} {o : Outcome}
    (course : JobStatus.Course operation requestId t o) :
    o.success = true ↔ ∃ state, LastFound t state ∧ state.isFailure = false := by
  cases course with
  | blank nothing =>
    simp [not_lastFound_of_unpolled (rfl : Watch.findings [] = []), Outcome.ofError]
  | unanswered something e =>
    simp [LastFound, Watch.findings, Watch.finding?, Except.bind, Outcome.ofError]
  | unrecognized something unknown =>
    simp [LastFound, Watch.findings, Watch.finding?, Except.bind, unknown, Outcome.ofError]
  | recognized something known =>
    simp [LastFound, Watch.findings, Watch.finding?, Except.bind, known]

/-- Nobody waits after a query. -/
theorem asked_succeeds_iff {requestId : String}
    (course : (Errand.query operation (Text.trim requestId)).Course
      (workflow.transcript client s) (workflow.run client s).result) :
    ((workflow.bind (follow clock operation w)).run client s).result = .ok true ↔
      (Subject.asked (some requestId)).Succeeds
        ((workflow.bind (follow clock operation w)).transcript client s) := by
  have noRequest : (workflow.run client s).result.requestId = none := by
    rw [Option.eq_none_iff_forall_ne_some]
    intro id found
    exact not_accepted_query _ _ id ((course.settles.requestId_iff id).mp found)
  have polls := pollsOnly_of_query operation course
  rw [PollsOnly, Text.trim_trim] at polls
  obtain ⟨result, transcript⟩ := bind_follow_of_no_request client clock operation (w := w) noRequest
  rw [result, transcript, Except.ok.injEq, success_of_query_iff operation course]
  constructor
  · rintro ⟨state, last, noFailure⟩
    exact .asked polls (length_of_query operation course last) last noFailure
  · intro success
    cases success with
    | asked polls once last noFailure => exact ⟨_, last, noFailure⟩

/-- A request that was resolved, and what comes after it. -/
theorem resolved_succeeds_iff {S : Type} [JobSpec S] {r : JobRequest S} {issue : S → Errand}
    (queues : ∀ spec, JobSpec.mode spec = .async → (issue spec).Queues) {a : JobArguments}
    (status : r.status = a.status) (requestId : r.requestId = a.requestId)
    (mode : JobSpec.mode r.spec = a.mode)
    (course : (Errand.ofResolved operation issue r.resolve).Course
      (workflow.transcript client s) (workflow.run client s).result)
    (waits : a.waiting.wait = true) {subject : Subject} (about : a.subject? = some subject) :
    ((workflow.bind (follow clock operation a.waiting)).run client s).result = .ok true ↔
      subject.Succeeds
        ((workflow.bind (follow clock operation a.waiting)).transcript client s) := by
  by_cases malformed : r.Malformed
  · obtain ⟨reason, refused⟩ := JobRequest.resolve_of_malformed malformed
    rw [refused] at course
    obtain ⟨uncalled, outcome⟩ := course
    have noRequest : (workflow.run client s).result.requestId = none := by
      rw [outcome]
      rfl
    obtain ⟨result, transcript⟩ :=
      bind_follow_of_no_request client clock operation (w := a.waiting) noRequest
    rw [result, transcript, outcome, uncalled]
    exact iff_of_false (by simp [Outcome.ofError]) (not_succeeds_of_unpolled rfl subject)
  · rcases JobRequest.resolve_of_not_malformed malformed with
      ⟨issues, resolved⟩ | ⟨id, asks, given, -, resolved⟩
    · rw [resolved] at course
      have async : a.async = true ∧ Subject.queued = subject := by
        simpa [JobArguments.subject?, ← status, issues] using about
      obtain ⟨async, rfl⟩ := async
      have queued : (issue r.spec).Queues :=
        queues r.spec (by rw [mode, JobArguments.mode, async]; rfl)
      exact queued_succeeds_iff client clock operation queued course waits
    · rw [resolved] at course
      have asked : Subject.asked (some id) = subject := by
        simpa [JobArguments.subject?, ← status, ← requestId, asks, given] using about
      rw [← asked]
      exact asked_succeeds_iff client clock operation course

end

end CommandLine

end ClusterBackup
