/-
ClusterBackup.Proofs.Http.Failures — the failures in the body of an answer
reach the report.

A body refuses an operation if its status is a number of 32 bits with sign
and, unless the status is another than zero, lists failures. A call that a
workflow cannot do without is answered by such a body with a response that
is no success, which ends the workflow. So the list in the body is the list
of the outcome and, line by line, of the report. A body about a failed job
takes the same way to the end of a query, with its exception behind it.
-/
import ClusterBackup.Proofs.Admin.Body
import ClusterBackup.Proofs.Failures
import ClusterBackup.Proofs.Http.Call
import Mathlib

namespace ClusterBackup

/-! ## Bodies -/

/-- The body refuses an operation and lists failures. -/
structure Refusal (L : List FailureDetail) (body : Json) : Prop where
  status : ∃ n : Int, body.at? ["responseHeader", "status"] = some (.number (.int n)) ∧
    AdminResponse.leastStatus ≤ n ∧ n ≤ AdminResponse.greatestStatus ∧ (n ≠ 0 ∨ L ≠ [])
  failures : ∃ v, body.get? "failure" = some v ∧ FailureDetail.Lists L v

/-- A body that refuses an operation is a response with its list that is no success. -/
theorem Refusal.ofBody? {L : List FailureDetail} {body : Json} (h : Refusal L body) :
    ∃ r, AdminResponse.ofBody? body = .ok r ∧ r.isSuccess = false ∧ r.errors = L := by
  obtain ⟨n, status, low, high, refused⟩ := h.status
  obtain ⟨v, member, lists⟩ := h.failures
  obtain ⟨message, read⟩ := AdminResponse.ofBody?_of_status status low high
  rw [member, FailureDetail.listOf_of_lists lists] at read
  refine ⟨_, read, ?_, rfl⟩
  rcases refused with nonzero | nonempty
  · simp [AdminResponse.isSuccess, nonzero]
  · simp [AdminResponse.isSuccess, nonempty]

/-- A body about a job that failed, which lists failures. -/
structure FailedJob (L : List FailureDetail) (body : Json) : Prop where
  state : ∃ raw, body.at? ["status", "state"] = some (.string raw) ∧
    JobState.ofRaw? raw = some .failed
  failures : ∃ v, body.get? "failure" = some v ∧ FailureDetail.Lists L v

/-- The exception that a body tells of, as one more failure. -/
def exceptionIn (body : Json) : List FailureDetail :=
  match body.at? ["exception", "msg"] with
  | some (.string msg) => [⟨"exception", msg⟩]
  | _ => []

theorem exceptionIn_eq (body : Json) :
    exceptionIn body = (((body.at? ["exception", "msg"]).bind Json.asString?).map fun msg =>
      ⟨RawJobStatus.exceptionName, msg⟩).toList := by
  unfold exceptionIn
  cases body.at? ["exception", "msg"] with
  | none => rfl
  | some v => cases v <;> rfl

/-- A body about a failed job is a status of it with the list and the exception. -/
theorem FailedJob.ofBody? {L : List FailureDetail} {body : Json} (h : FailedJob L body) :
    ∃ raw, RawJobStatus.ofBody? body = .ok raw ∧ JobState.ofRaw? raw.state = some .failed ∧
      raw.errors = L ++ exceptionIn body := by
  obtain ⟨state, found, failed⟩ := h.state
  obtain ⟨v, member, lists⟩ := h.failures
  refine ⟨⟨state, (body.at? ["status", "msg"]).bind Json.asString?, L ++ exceptionIn body⟩, ?_,
    failed, rfl⟩
  simp only [RawJobStatus.ofBody?, found, Option.bind_some, Json.asString?, member,
    FailureDetail.listOf_of_lists lists, exceptionIn_eq]

/-! ## Calls -/

/-- Calls that a workflow cannot do without: a deletion, and a backup or a restore, carried out at
once or queued. -/
inductive AdminCall.IsEssential : AdminCall → Prop where
  | delete (c : Collection) : IsEssential (.delete c)
  | backup (r : SnapshotRequest) : IsEssential (.backup r)
  | submitBackup (r : SnapshotRequest) : IsEssential (.submitBackup r)
  | restore (r : SnapshotRequest) : IsEssential (.restore r)
  | submitRestore (r : SnapshotRequest) : IsEssential (.submitRestore r)

namespace Http

section

variable {ν : Type} {c : Config} {env : Surroundings} {t : Transport ν} {s : State ν} {u : Url}
  {body : Json} {call : AdminCall}

/-- An essential call is answered with the response that refuses it. -/
theorem responded_of_gives {r : AdminResponse} (essential : call.IsEssential)
    (asked : asked? c env s.nextId call = some u) (gives : t.Gives s.network u body)
    (read : AdminResponse.ofBody? body = .ok r) (failure : r.isSuccess = false) :
    Exchange.Responded r ⟨call, (answer c env t call s).1⟩ := by
  rw [answer_eq]
  cases essential with
  | delete collection =>
    rw [plan, Plan.carryOut_posted_of_gives asked gives, read]
    exact .delete collection
  | backup q =>
    rw [plan, carryOut_runPlan_of_gives asked gives, read]
    exact .backup q
  | submitBackup q =>
    rw [plan, carryOut_submitPlan_of_gives asked gives, submissionOf_of_failure _ read failure]
    exact .submitBackup q
  | restore q =>
    rw [plan, carryOut_runPlan_of_gives asked gives, read]
    exact .restore q
  | submitRestore q =>
    rw [plan, carryOut_submitPlan_of_gives asked gives, submissionOf_of_failure _ read failure]
    exact .submitRestore q

/-- A query is answered with the status in the body. -/
theorem queryStatus_of_gives {id : String} {raw : RawJobStatus}
    (asked : asked? c env s.nextId (.queryStatus id) = some u) (gives : t.Gives s.network u body)
    (read : RawJobStatus.ofBody? body = .ok raw) :
    (answer c env t (.queryStatus id) s).1 = .ok raw := by
  rw [answer_eq, plan, Plan.carryOut_posted_of_gives asked gives, read]

end

/-! ## Runs -/

/-- A run fails with a list: the outcome has it, and the only report is the message with a line
for each entry. -/
structure FailsWith {σ : Type} (L : List FailureDetail) (r : Workflow.Run Outcome σ) : Prop where
  failed : r.result.success = false
  errors : r.result.errors = L
  reports : r.reports = [⟨false, r.result.message ++ String.join (L.mapIdx fun i e =>
    "\n" ++ toString (i + 1) ++ ". Error Name: " ++ e.name ++ "; Error Value: " ++ e.value)⟩]

/-- What an entry fails with is what its report tells. -/
theorem failsWith_of_failed {σ : Type} {client : Client σ} {entry : Entry} {s : σ}
    {L : List FailureDetail} (failed : (entry.workflow.run client s).result.success = false)
    (errors : (entry.workflow.run client s).result.errors = L) :
    FailsWith L (entry.workflow.run client s) where
  failed := failed
  errors := errors
  reports := by
    rw [entry.reports_eq, Report.ofOutcome, Report.render_eq, failed, errors]
    simp only [Report.errorLines, Report.errorLine, List.mapIdx_eq_zipIdx_map, List.map_map,
      Function.comp_def, String.append_assoc]

/-- **The failures that a cluster lists reach the report, complete and in their order.** Each of
the three shapes is read as the list it writes. If a run of any entry, over any network and in any
surroundings, makes an essential call and the network gives a body for its URL that refuses it,
the run fails with the list in the body; and so does a query whose body tells of a failed job, with
the exception of the body as the last entry. -/
theorem listed_failures_are_reported :
    (∀ (L : List FailureDetail) (v : Json), FailureDetail.Lists L v →
      FailureDetail.listOf (some v) = L) ∧
    ∀ {ν : Type} (c : Config) (env : Nat → Surroundings) (t : Transport ν) (entry : Entry)
      (start : State ν) (call : AdminCall) (s : State ν) (n : Nat) (u : Url) (body : Json)
      (L : List FailureDetail),
      let client := Client.overTime fun n => client c (env n) t
      (call, (s, n)) ∈ entry.workflow.visits client (start, 0) →
      asked? c (env n) s.nextId call = some u → t.Gives s.network u body →
      (call.IsEssential → Refusal L body →
        FailsWith L (entry.workflow.run client (start, 0))) ∧
      ∀ id, call = .queryStatus id → FailedJob L body →
        FailsWith (L ++ exceptionIn body) (entry.workflow.run client (start, 0)) := by
  refine ⟨fun L v lists => FailureDetail.listOf_of_lists lists, ?_⟩
  intro ν c env t entry start call s n u body L client visited asked gives
  have course := entry.course client (start, 0)
  have answered : Answered (entry.workflow.transcript client (start, 0)) call
      (answer c (env n) t call s).1 :=
    Workflow.answered_transcript_iff.mpr ⟨(s, n), visited, by rw [Client.answer_overTime]; rfl⟩
  constructor
  · intro essential refusal
    obtain ⟨r, read, failure, rfl⟩ := refusal.ofBody?
    have refused := course.of_responded answered
      (responded_of_gives essential asked gives read failure) failure
    exact failsWith_of_failed refused.1 refused.2
  · rintro id rfl failedJob
    obtain ⟨raw, read, failed, errors⟩ := failedJob.ofBody?
    rw [queryStatus_of_gives asked gives read] at answered
    have problem := course.of_failed_job answered failed
    exact failsWith_of_failed problem.1 (problem.2.trans errors)

/-- A body that refuses an operation and tells of a failed job at once. -/
def diskFullText : String :=
  "\x7b\"responseHeader\":\x7b\"status\":500\x7d,\"status\":\x7b\"state\":\"failed\"\x7d," ++
    "\"failure\":[\"node1\",\"disk full\"],\"exception\":\x7b\"msg\":\"gave up\"\x7d\x7d"

def diskFull : Response := ⟨500, Text.Utf8.encode diskFullText.toList⟩

def diskFullBody : Json :=
  .object [("responseHeader", .object [("status", .number (.int 500))]),
    ("status", .object [("state", .string "failed")]),
    ("failure", .array [.string "node1", .string "disk full"]),
    ("exception", .object [("msg", .string "gave up")])]

theorem bodyOf_diskFull : bodyOf diskFull = .ok diskFullBody := by
  have written : diskFull.text = diskFullText := by decide +kernel
  have read : Json.parse? diskFullText = some diskFullBody := by cbv
  rw [bodyOf, written, read]

theorem gives_diskFull (u : Url) :
    (Transport.replying (.ok diskFull)).Gives () u diskFullBody :=
  ⟨diskFull, rfl, bodyOf_diskFull⟩

/-- A backup and a query over a network that answers everything with this body. -/
theorem listed_failures_are_reported_disk :
    let client := Client.overTime fun _ => client {} ⟨⟨2024, 1, 1, 12, 0, 0, 0⟩, .empty⟩
      (Transport.replying (.ok diskFull))
    FailsWith [⟨"node1", "disk full"⟩]
        ((Entry.backup { collection := .default, backupName := some "nightly" }).workflow.run
          client (⟨0, ()⟩, 0)) ∧
      FailsWith [⟨"node1", "disk full"⟩, ⟨"exception", "gave up"⟩]
        ((Entry.status .backup "r1").workflow.run client (⟨0, ()⟩, 0)) := by
  intro client
  have backup := listed_failures_are_reported.2 {} (fun _ => ⟨⟨2024, 1, 1, 12, 0, 0, 0⟩, .empty⟩)
    (Transport.replying (.ok diskFull))
    (.backup { collection := .default, backupName := some "nightly" }) ⟨0, ()⟩
    (.backup ⟨.default, none, some "nightly"⟩) ⟨0, ()⟩ 0
    ⟨false, "localhost", some 8983, ["solr", "admin", "collections"],
      some "action=BACKUP&name=nightly&collection=catalog&wt=json"⟩
    diskFullBody [⟨"node1", "disk full"⟩] List.mem_cons_self (by decide +kernel) (gives_diskFull _)
  have query := listed_failures_are_reported.2 {} (fun _ => ⟨⟨2024, 1, 1, 12, 0, 0, 0⟩, .empty⟩)
    (Transport.replying (.ok diskFull)) (.status .backup "r1") ⟨0, ()⟩ (.queryStatus "r1")
    ⟨0, ()⟩ 0
    ⟨false, "localhost", some 8983, ["solr", "admin", "collections"],
      some "action=REQUESTSTATUS&requestid=r1&wt=json"⟩
    diskFullBody [⟨"node1", "disk full"⟩] List.mem_cons_self (by decide +kernel) (gives_diskFull _)
  exact ⟨backup.1 (.backup _) ⟨⟨500, rfl, by decide, by decide, .inl (by decide)⟩, _, rfl, .inTurn⟩,
    query.2 "r1" rfl ⟨⟨"failed", rfl, by decide⟩, _, rfl, .inTurn⟩⟩

end Http

end ClusterBackup
