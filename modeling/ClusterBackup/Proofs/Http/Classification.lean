/-
ClusterBackup.Proofs.Http.Classification — what the answer to a backup
amounts to.

Whatever text a cluster answers a backup with, the outcome is one of three:
a success, a failed operation, or an answer that is not understood. Which
one it is depends on the text alone, never on the status of HTTP around it:
`Responds` and `Succeeds` say when, in terms of the JSON that the text
writes. A status beyond 32 bits is not cut down to one within, and a list
with something in it is never taken for an empty one.
-/
import ClusterBackup.Proofs.Admin.Body
import ClusterBackup.Proofs.Entry
import ClusterBackup.Proofs.Http.Call
import ClusterBackup.Proofs.Outcome
import Mathlib

namespace ClusterBackup

/-! ## Texts -/

/-- The text is JSON that has a whole number for its status. -/
structure AnswersWith (text : String) (body : Json) (status : Int) : Prop where
  parsed : Json.parse? text = some body
  status_eq : body.at? ["responseHeader", "status"] = some (.number (.int status))

/-- The text answers with a status of 32 bits with sign. -/
def Responds (text : String) : Prop :=
  ∃ body status, AnswersWith text body status ∧ -2147483648 ≤ status ∧ status ≤ 2147483647

/-- The text answers with a status of zero, and lists no failures. -/
def Succeeds (text : String) : Prop :=
  ∃ body, AnswersWith text body 0 ∧ FailureDetail.ListsNothing (body.get? "failure")

theorem Succeeds.responds {text : String} (h : Succeeds text) : Responds text := by
  obtain ⟨body, answers, -⟩ := h
  exact ⟨body, 0, answers, by decide, by decide⟩

/-- A text is JSON in one way at most, with one status at most. -/
theorem AnswersWith.unique {text : String} {body body' : Json} {status status' : Int}
    (h : AnswersWith text body status) (h' : AnswersWith text body' status') :
    body = body' ∧ status = status' := by
  obtain rfl : body = body' := Option.some.inj (h.parsed.symm.trans h'.parsed)
  have same := h.status_eq.symm.trans h'.status_eq
  simp only [Option.some.injEq, Json.number.injEq, Json.Number.int.injEq] at same
  exact ⟨rfl, same⟩

namespace Http

/-- A text that responds is read as the response with its status and its failures. -/
theorem read_of_answersWith {r : Response} {body : Json} {status : Int}
    (answers : AnswersWith r.text body status) (low : -2147483648 ≤ status)
    (high : status ≤ 2147483647) :
    ∃ message, (bodyOf r).bind AdminResponse.ofBody? =
      .ok ⟨status, FailureDetail.listOf (body.get? "failure"), message⟩ := by
  have parsed : bodyOf r = .ok body := by rw [bodyOf, answers.parsed]
  rw [parsed]
  exact AdminResponse.ofBody?_of_status answers.status_eq low high

/-- Any other text is not understood. -/
theorem read_of_not_responds {r : Response} (h : ¬ Responds r.text) :
    ∃ reason, (bodyOf r).bind AdminResponse.ofBody? = .error (.protocol reason) := by
  unfold bodyOf
  cases parsed : Json.parse? r.text with
  | none => exact ⟨_, rfl⟩
  | some body =>
    exact AdminResponse.ofBody?_of_no_status fun status found bounds =>
      h ⟨body, status, ⟨parsed, found⟩, bounds⟩

end Http

/-! ## Outcomes -/

/-- The outcome of a backup that was answered with a text. -/
structure Classified (text : String) (o : Outcome) : Prop where
  success_iff : o.success = true ↔ Succeeds text
  failed_iff : o.success = false ∧ o.kind = some .clusterOperationFailed ↔
    Responds text ∧ ¬ Succeeds text
  garbled_iff : o.success = false ∧ o.kind = some .transportFailure ↔ ¬ Responds text
  /-- The outcome of a response lists failures exactly if the body does. -/
  listed : ∀ body status, AnswersWith text body status → Responds text →
    (o.errors = [] ↔ FailureDetail.ListsNothing (body.get? "failure"))

section

variable {text : String} {spec : BackupSpec}

/-- An answer that is not understood makes a transport failure. -/
theorem classified_of_not_responds (garbled : ¬ Responds text) (reason : String) :
    Classified text (.ofFailure .backup spec.collection (.protocol reason)) where
  success_iff := ⟨fun success => Bool.noConfusion success,
    fun succeeds => absurd succeeds.responds garbled⟩
  failed_iff := ⟨fun failed => (nomatch failed.2), fun h => absurd h.1 garbled⟩
  garbled_iff := ⟨fun _ => garbled, fun _ => ⟨rfl, rfl⟩⟩
  listed _ _ _ responds := absurd responds garbled

/-- A response is a success if its status is zero and it lists nothing, and a failed operation
otherwise. -/
theorem classified_of_answersWith {body : Json} {status : Int}
    (answers : AnswersWith text body status) (low : -2147483648 ≤ status)
    (high : status ≤ 2147483647) {r : AdminResponse} (status_eq : r.status = status)
    (errors_eq : r.errors = FailureDetail.listOf (body.get? "failure")) :
    Classified text (.ofResponse .backup spec.collection r) := by
  have responds : Responds text := ⟨body, status, answers, low, high⟩
  have success_iff : r.isSuccess = true ↔ Succeeds text := by
    rw [AdminResponse.isSuccess, Bool.and_eq_true, beq_iff_eq, List.isEmpty_iff, status_eq,
      errors_eq, FailureDetail.listOf_eq_nil_iff]
    constructor
    · rintro ⟨rfl, nothing⟩
      exact ⟨body, answers, nothing⟩
    · rintro ⟨body', answers', nothing⟩
      obtain ⟨rfl, rfl⟩ := answers.unique answers'
      exact ⟨rfl, nothing⟩
  exact
    { success_iff := by rw [Outcome.success_ofResponse, success_iff]
      failed_iff := by
        rw [Outcome.success_ofResponse, Outcome.kind_ofResponse, ← success_iff]
        cases r.isSuccess <;> simp [responds]
      garbled_iff := by
        rw [Outcome.success_ofResponse, Outcome.kind_ofResponse]
        cases r.isSuccess <;> simp [responds]
      listed := fun body' status' answers' _ => by
        obtain ⟨rfl, rfl⟩ := answers.unique answers'
        rw [Outcome.errors_ofResponse, errors_eq, FailureDetail.listOf_eq_nil_iff] }

end

namespace Http

section

variable {ν : Type} {c : Config} {env : Nat → Surroundings} {t : Transport ν} {entry : Entry}
  {spec : BackupSpec} {s : State ν} {u : Url} {r : Response}

/-- A backup comes to what is read out of the text that came back. -/
theorem classified_of_received (issued : entry.errand = .backup spec) (sync : spec.mode = .sync)
    (asked : asked? c (env 0) s.nextId (.backup spec.request) = some u)
    (received : (t u s.network).1 = .ok r) :
    Classified r.text
      (entry.workflow.run (.overTime fun n => client c (env n) t) (s, 0)).result := by
  have answered : (answer c (env 0) t (.backup spec.request) s).1 =
      (bodyOf r).bind AdminResponse.ofBody? := by
    rw [answer_eq]
    exact carryOut_runPlan_of_received asked received
  rw [entry.workflow_eq, Workflow.result_reported, issued, Errand.workflow,
    Backup.result_execute_sync _ sync, Client.answer_overTime]
  simp only [client, answered]
  by_cases responds : Responds r.text
  · obtain ⟨body, status, answers, low, high⟩ := responds
    obtain ⟨message, read⟩ := read_of_answersWith answers low high
    rw [read]
    exact classified_of_answersWith answers low high rfl rfl
  · obtain ⟨reason, unread⟩ := read_of_not_responds responds
    rw [unread]
    exact classified_of_not_responds responds reason

end

/-- **The answer to a backup is a success, a failed operation, or not understood**, and of all that
came back the text alone decides which. Whatever JSON the text writes is read to an end: exactly
what lists nothing is an empty list, each entry of an array has its place in it, and a body is
either a response or not understood. -/
theorem answers_to_backups_are_classified :
    (∀ v, FailureDetail.listOf v = [] ↔ FailureDetail.ListsNothing v) ∧
    (∀ (items : List Json) (i : Nat), (FailureDetail.listOf (some (.array items)))[i]? =
      if ∀ item ∈ items, FailureDetail.IsPair item then items[i]?.bind FailureDetail.ofPair?
      else items[2 * i]?.map fun name =>
        ⟨FailureDetail.textOf name, (items[2 * i + 1]?.map FailureDetail.textOf).getD ""⟩) ∧
    (∀ body, (∃ r, AdminResponse.ofBody? body = .ok r) ∨
      ∃ reason, AdminResponse.ofBody? body = .error (.protocol reason)) ∧
    ∀ {ν : Type} (c : Config) (env : Nat → Surroundings) (t : Transport ν) (entry : Entry)
      (spec : BackupSpec) (s : State ν) (u : Url) (status : Nat) (bytes : List UInt8)
      (text : String), entry.errand = .backup spec → spec.mode = .sync →
      asked? c (env 0) s.nextId (.backup spec.request) = some u →
      (t u s.network).1 = .ok ⟨status, bytes⟩ → Response.text ⟨status, bytes⟩ = text →
      Classified text
        (entry.workflow.run (.overTime fun n => client c (env n) t) (s, 0)).result := by
  refine ⟨FailureDetail.listOf_eq_nil_iff, FailureDetail.getElem?_listOf_array,
    AdminResponse.ofBody?_total, ?_⟩
  rintro ν c env t entry spec s u status bytes _ issued sync asked received rfl
  exact classified_of_received issued sync asked received

/-- A text whose status is a multiple of two to the 32nd. -/
def wideStatus : String := "\x7b\"responseHeader\":\x7b\"status\":4294967296\x7d\x7d"

/-- A text that tells of a success, with an empty list of failures. -/
def quietSuccess : String :=
  "\x7b\"responseHeader\":\x7b\"status\":0\x7d,\"failure\":[]\x7d"

/-- What a backup comes to over a network that answers everything with a status and a text. -/
def outcomeOf (status : Nat) (text : String) : Outcome :=
  ((Entry.backup { collection := .default, backupName := some "nightly" }).workflow.run
    (.overTime fun _ => client {} ⟨⟨2024, 1, 1, 12, 0, 0, 0⟩, .empty⟩
      (Transport.replying (.ok ⟨status, Text.Utf8.encode text.toList⟩))) (⟨0, ()⟩, 0)).result

/-- A status that 32 bits do not hold is not understood, although HTTP calls it a success; and a
success stays one although HTTP calls it a bad gateway. -/
theorem answers_to_backups_are_classified_wide :
    (outcomeOf 200 wideStatus).kind = some .transportFailure ∧
      (outcomeOf 502 quietSuccess).success = true := by
  have classified : ∀ status text, Response.text ⟨status, Text.Utf8.encode text.toList⟩ = text →
      Classified text (outcomeOf status text) := fun status text told =>
    answers_to_backups_are_classified.2.2.2 {} (fun _ => ⟨⟨2024, 1, 1, 12, 0, 0, 0⟩, .empty⟩)
      (Transport.replying (.ok ⟨status, Text.Utf8.encode text.toList⟩))
      (.backup { collection := .default, backupName := some "nightly" }) _ ⟨0, ()⟩
      ⟨false, "localhost", some 8983, ["solr", "admin", "collections"],
        some "action=BACKUP&name=nightly&collection=catalog&wt=json"⟩ status _ text rfl rfl
      (by decide +kernel) rfl told
  constructor
  · have parsed : Json.parse? wideStatus =
        some (.object [("responseHeader", .object [("status", .number (.int 4294967296))])]) := by
      cbv
    refine ((classified 200 wideStatus (by decide +kernel)).garbled_iff.mpr ?_).2
    rintro ⟨body, status, answers, low, high⟩
    have wide := (answers.unique ⟨parsed, rfl⟩).2
    omega
  · have parsed : Json.parse? quietSuccess =
        some (.object [("responseHeader", .object [("status", .number (.int 0))]),
          ("failure", .array [])]) := by
      cbv
    exact (classified 502 quietSuccess (by decide +kernel)).success_iff.mpr
      ⟨_, ⟨parsed, rfl⟩, .noItems⟩

end Http

end ClusterBackup
