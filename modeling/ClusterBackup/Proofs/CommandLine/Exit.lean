/-
ClusterBackup.Proofs.CommandLine.Exit — what the exit code of a command that
waits says about a job.

Every command that is about a job comes down to a workflow on a client:
`Command.succeeds_iff` says when it is a success, and the exit code is zero
for nothing else. What ends before there is a client has no calls, so it is
a failure by the same measure.
-/
import ClusterBackup.Proofs.CommandLine.Follow

namespace ClusterBackup.CommandLine

/-! ## Commands -/

/-- What does not fail did not fail at first. -/
theorem exists_of_bind_eq_ok {ε α β : Type} {first : Except ε α} {next : α → Except ε β} {b : β}
    (done : first >>= next = .ok b) : ∃ a, first = .ok a ∧ next a = .ok b := by
  cases first with
  | error e => cases done
  | ok a => exact ⟨a, rfl, done⟩

/-- The request of a backup has the flags and the request id of the command line. -/
theorem JobArguments.fields_of_backupRequest {a : JobArguments} {r : JobRequest BackupSpec}
    (made : a.backupRequest = .ok r) :
    r.status = a.status ∧ r.requestId = a.requestId ∧ JobSpec.mode r.spec = a.mode := by
  obtain ⟨collection, -, rest⟩ := exists_of_bind_eq_ok made
  cases rest
  exact ⟨rfl, rfl, rfl⟩

/-- So has the request of a restore. -/
theorem JobArguments.fields_of_restoreRequest {a : JobArguments} {force : Bool}
    {r : JobRequest RestoreSpec} (made : a.restoreRequest force = .ok r) :
    r.status = a.status ∧ r.requestId = a.requestId ∧ JobSpec.mode r.spec = a.mode := by
  obtain ⟨collection, -, rest⟩ := exists_of_bind_eq_ok made
  cases rest
  exact ⟨rfl, rfl, rfl⟩

/-- The calls of a task, if it is not to serve, up to its end. -/
def Task.workflow? (clock : Watch → Stopwatch) : Task → Option (Workflow Ending)
  | .job operation w workflow => some (workflow.bind (follow clock operation w))
  | .watch operation w requestId => some (watchJob clock operation w requestId)
  | .serve _ => none

variable {σ : Type} (client : Client σ) (clock : Watch → Stopwatch) {cmd : Command}
  {subject : Subject} {task : Task}

/-- A command that is about a job serves nothing. -/
theorem Command.exists_workflow (about : cmd.subject? = some subject)
    (made : cmd.task = .ok task) : ∃ workflow, task.workflow? clock = some workflow := by
  cases task with
  | job operation w workflow => exact ⟨_, rfl⟩
  | watch operation w requestId => exact ⟨_, rfl⟩
  | serve address =>
    cases cmd with
    | serve address => cases about
    | _ =>
      simp only [task] at made
      split at made <;> cases made

/-- What a command that waits says about its job, on any client. -/
theorem Command.succeeds_iff {workflow : Workflow Ending} (waits : cmd.waits = true)
    (about : cmd.subject? = some subject) (made : cmd.task = .ok task)
    (runs : task.workflow? clock = some workflow) (s : σ) :
    (workflow.run client s).result = .ok true ↔
      subject.Succeeds (workflow.transcript client s) := by
  cases cmd with
  | backup a =>
    simp only [Command.task] at made
    split at made
    · cases made
    · next r requested =>
      cases made
      cases runs
      obtain ⟨status, requestId, mode⟩ := JobArguments.fields_of_backupRequest requested
      exact resolved_succeeds_iff client clock .backup Errand.queues_backup status requestId
        mode (Entry.course client (.runBackup r) s) waits about
  | restore a force =>
    simp only [Command.task] at made
    split at made
    · cases made
    · next r requested =>
      cases made
      cases runs
      obtain ⟨status, requestId, mode⟩ := JobArguments.fields_of_restoreRequest requested
      exact resolved_succeeds_iff client clock .restore Errand.queues_restore status requestId
        mode (Entry.course client (.runRestore r) s) waits about
  | status requestId operation w =>
    cases about
    simp only [Command.task, show w.wait = true from waits, if_true] at made
    cases made
    cases runs
    rw [result_watchJob_iff]
    refine ⟨.named (pollsOnly_watchJob client clock operation requestId s), fun success => ?_⟩
    cases success with
    | named polls last => exact last
  | serve address => cases about

/-! ## Whole command lines -/

/-- The exit code is zero only for a success. -/
theorem exit_ofEnding_iff (reports : List Report) (e : Ending) :
    (Output.ofEnding reports e).exit = 0 ↔ e = .ok true := by
  rcases e with f | (_ | _) <;> simp [Output.ofEnding]

variable {ν : Type} (h : Host ν)

/-- The calls of a workflow on a client of a host, with their answers. -/
def sent (workflow : Workflow Ending) : ClientChoice → List Exchange
  | .simulated cluster => workflow.transcript (Simulated.client h.now) cluster
  | .http config =>
    workflow.transcript (Http.client config ⟨h.now, h.files⟩ h.transport) { network := h.network }

/-- The calls that arguments lead to on a host, with their answers; none if nothing is run. -/
def exchanges (a : Arguments) : List Exchange :=
  match plan h.files a with
  | .error _ => []
  | .ok (choice, task) =>
    match task.workflow? h.clock with
    | some workflow => sent h workflow choice
    | none => []

/-- A task that is not to serve is run on its client. -/
theorem runTask_eq {workflow : Workflow Ending} (runs : task.workflow? h.clock = some workflow)
    (choice : ClientChoice) :
    runTask h choice task = .ok (.finished (runJob h workflow choice)) := by
  cases task with
  | job operation w first => cases runs; rfl
  | watch operation w requestId => cases runs; rfl
  | serve address => cases runs

/-- A plan has the task of the command. -/
theorem task_of_plan {files : FileSystem} {a : Arguments} {choice : ClientChoice}
    (planned : plan files a = .ok (choice, task)) : a.command.task = .ok task := by
  obtain ⟨config, -, chosen⟩ := exists_of_bind_eq_ok planned
  obtain ⟨client, -, tasked⟩ := exists_of_bind_eq_ok chosen
  obtain ⟨task', made, paired⟩ := exists_of_bind_eq_ok tasked
  cases paired
  exact made

/-- **The exit code of a command that waits tells what the last poll for its job found.** On any
client, and for whole command lines on any host, it is zero exactly for a success: a job that was to
be queued was accepted and found completed in the end, and so was one that the status command names;
but one that a flag has a backup or a restore ask about was asked about once and is no failure. -/
theorem exit_follows_last_poll {a : Arguments} {subject : Subject}
    (waits : a.command.waits = true) (about : a.command.subject? = some subject) :
    (∀ {σ : Type} (client : Client σ) (s : σ) (clock : Watch → Stopwatch) (task : Task)
        (workflow : Workflow Ending), a.command.task = .ok task →
      task.workflow? clock = some workflow →
      let r := workflow.run client s
      ((Output.ofEnding r.reports r.result).exit = 0 ↔
        subject.Succeeds (workflow.transcript client s))) ∧
    ∀ {ν : Type} (h : Host ν) (words : List String),
      Arguments.read h.environment words = .ok a →
      ∃ output, run h words = .finished output ∧
        (output.exit = 0 ↔ subject.Succeeds (exchanges h a)) := by
  refine ⟨?_, ?_⟩
  · intro σ client s clock task workflow made runs
    simp only [exit_ofEnding_iff]
    exact Command.succeeds_iff client clock waits about made runs s
  · intro ν h words read
    simp only [run, read]
    cases planned : plan h.files a with
    | error f =>
      have uncalled : exchanges h a = [] := by simp [exchanges, planned]
      refine ⟨_, rfl, ?_⟩
      rw [uncalled]
      exact iff_of_false (by simp [Output.ofFailure, exit_ofEnding_iff])
        (not_succeeds_of_unpolled rfl subject)
    | ok plan =>
      obtain ⟨choice, task⟩ := plan
      have made := task_of_plan planned
      obtain ⟨workflow, runs⟩ := a.command.exists_workflow h.clock about made
      have sends : exchanges h a = sent h workflow choice := by simp [exchanges, planned, runs]
      refine ⟨runJob h workflow choice, by simp [Except.bind, runTask_eq h runs], ?_⟩
      rw [sends]
      cases choice with
      | simulated cluster =>
        simp only [runJob, sent, exit_ofEnding_iff]
        exact Command.succeeds_iff _ h.clock waits about made runs _
      | http config =>
        simp only [runJob, sent, exit_ofEnding_iff]
        exact Command.succeeds_iff _ h.clock waits about made runs _

/-- A host on which the cluster answers every request with a job that is running. -/
def busyHost : Host Unit where
  environment := []
  files := .empty
  now := ⟨2024, 3, 9, 14, 5, 7, 123⟩
  clock w := .steady 1 w.interval w.timeout
  transport _ network :=
    let header := "\"responseHeader\":\x7b\"status\":0\x7d"
    let status := "\"status\":\x7b\"state\":\"running\"\x7d"
    (.ok ⟨200, ("\x7b" ++ header ++ "," ++ status ++ "\x7d").toUTF8.toList⟩, network)
  network := ()
  bindFault _ := none

/-- A backup that is told to ask about a job and to wait exits with zero while the job goes on. -/
theorem exit_follows_last_poll_running :
    let words := ["backup", "--status", "--request-id", "r-1", "--wait"]
    let a : Arguments :=
      ⟨.backup ⟨"catalog", none, none, false, true, some "r-1", ⟨true, 5, 3600⟩⟩, none, none, false⟩
    a.command.waits = true ∧ a.command.subject? = some (.asked (some "r-1")) ∧
      Arguments.read busyHost.environment words = .ok a ∧
      LastFound (exchanges busyHost a) .running ∧
      ∃ output, run busyHost words = .finished output ∧ output.exit = 0 := by
  intro words a
  have waits : a.command.waits = true := rfl
  have about : a.command.subject? = some (.asked (some "r-1")) := rfl
  have read : Arguments.read busyHost.environment words = .ok a := by decide +kernel
  have calls : (exchanges busyHost a).map (·.call) = [.queryStatus "r-1"] := by decide +kernel
  have last : LastFound (exchanges busyHost a) .running :=
    ⟨⟨"r-1", .running, [], none⟩, by decide +kernel, rfl⟩
  obtain ⟨output, finished, exit_iff⟩ := (exit_follows_last_poll waits about).2 busyHost words read
  refine ⟨waits, about, read, last, output, finished, exit_iff.mpr (.asked ?_ ?_ last rfl)⟩
  · intro id made
    rw [Made, calls, List.mem_singleton, AdminCall.queryStatus.injEq] at made
    rw [made]
    decide
  · rw [← List.length_map, calls]
    rfl

end ClusterBackup.CommandLine
