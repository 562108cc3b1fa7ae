/-
ClusterBackup.Proofs.Simulated.Findings — what those who poll a job learn
of it.

A poll answers in the cluster's words, and the caller makes a status of
them. `findings` lists the statuses that the polls of a job find along a
run; by `findings_eq` they are read off the schedule of the job, one after
another. So there is a first one that is final: it comes with the poll
that the job needs, says whether the work succeeded, and lists the
failures of the work (`find?_findings`).
-/
import ClusterBackup.Proofs.Outcome
import ClusterBackup.Proofs.Simulated.PollSchedule
import ClusterBackup.Proofs.Text.Blank

namespace ClusterBackup.Simulated

/-- The state in which the `n`-th poll finds a job. -/
def stateAt (needed : Nat) (result : AdminResponse) (n : Nat) : JobState :=
  if lastPoll needed < n then .notFound
  else if needed ≤ n then if result.isSuccess then .completed else .failed
  else if n = 1 then .submitted
  else .running

/-- What the `n`-th poll tells of a job. -/
def statusAt (id : String) (needed : Nat) (result : AdminResponse) (n : Nat) : JobStatus :=
  ⟨id, stateAt needed result n, if stateAt needed result n = .failed then result.errors else [],
    none⟩

/-- The first poll that finds a job finished. -/
def finalPoll (needed : Nat) : Nat := max 1 needed

/-! ## One poll -/

/-- Every state is known by its own name. -/
theorem ofRaw?_label (id : String) (state : JobState) (errors : List FailureDetail) :
    JobStatus.ofRaw? id { RawJobStatus.ofState state.label with errors } =
      .ok ⟨id, state, if state = .failed then errors else [], none⟩ := by
  have known : JobState.ofRaw? state.label = some state := by
    cases state <;> decide
  simp [JobStatus.ofRaw?, RawJobStatus.ofState, known]

/-- The cluster's words for what it finds are understood. -/
theorem ofRaw?_schedule (id : String) (needed : Nat) (result : AdminResponse) (n : Nat) :
    JobStatus.ofRaw? id (schedule needed result n) = .ok (statusAt id needed result n) := by
  unfold schedule statusAt stateAt
  split
  · exact ofRaw?_label id .notFound []
  · split
    · split
      · exact ofRaw?_label id .completed []
      · exact ofRaw?_label id .failed result.errors
    · split
      · exact ofRaw?_label id .submitted []
      · exact ofRaw?_label id .running []

namespace Cluster

theorem isSpace_of_mem_jobId {operation : Operation} {n : Nat} {c : Char}
    (h : c ∈ (jobId operation n).toList) : Text.isSpace c = false := by
  simp only [jobId, sequenceText, String.toList_append, String.toList_ofList, List.mem_append] at h
  rcases h with (label | hyphen) | digits
  · have solid : operation.label.toList.all (!Text.isSpace ·) = true := by
      cases operation <;> rfl
    simpa using List.all_eq_true.mp solid c label
  · obtain rfl : c = '-' := by simpa using hyphen
    rfl
  · exact Text.isSpace_of_isDigit (Snapshot.isDigit_of_mem_padded digits)

theorem trim_jobId (operation : Operation) (n : Nat) :
    Text.trim (jobId operation n) = jobId operation n :=
  Text.trim_eq_self fun _ inside => isSpace_of_mem_jobId inside

theorem jobId_ne_empty (operation : Operation) (n : Nat) : jobId operation n ≠ "" := by
  intro empty
  have chars := congrArg String.toList empty
  simp [jobId] at chars

/-- Asking for a status asks the cluster, and translates the answer. -/
theorem result_fetch (now : DateTime) {id : String} (trimmed : Text.trim id = id)
    (given : id ≠ "") (s : Cluster) :
    ((JobStatus.fetch id).run (client now) s).result =
      (answer now (.queryStatus id) s).1.bind (JobStatus.ofRaw? id) := by
  have something : Text.trim id ≠ "" := trimmed.symm ▸ given
  simp only [JobStatus.fetch, if_neg something, Workflow.bind_eq, Workflow.call,
    Workflow.ask_bind, Workflow.done_bind, Workflow.run_ask, client]
  -- The type of the answer mentions the trimmed id, so the two become one at once.
  generalize Text.trim id = id' at trimmed ⊢
  subst trimmed
  cases (answer now (.queryStatus id') s).1 with
  | ok raw => simp only [Workflow.pure_eq_done, Workflow.run_done, Except.bind]
  | error e => simp only [Workflow.pure_eq_done, Workflow.run_done, Except.bind]

/-- What a step tells of a job, if it is a poll of it that meets no fault. -/
def finding? (id : String) (s : Cluster) : Step → Option JobStatus
  | .call now (.queryStatus id') =>
    if polls id s (.call now (.queryStatus id')) then
      ((JobStatus.fetch id).run (client now) s).result.toOption
    else none
  | _ => none

theorem Tracked.finding?_eq {id : String} {number needed : Nat} {result : AdminResponse}
    {s : Cluster} {polled since : Nat} (h : Tracked id number needed result s polled since)
    (step : Step) : finding? id s step =
      if polls id s step then some (statusAt id needed result (polled + 1)) else none := by
  cases step with
  | call now call =>
    cases call with
    | queryStatus id' =>
      simp only [finding?]
      by_cases asked : polls id s (.call now (.queryStatus id')) = true
      · rw [if_pos asked, if_pos asked]
        simp only [polls, Bool.and_eq_true, decide_eq_true_eq, Option.isNone_iff_eq_none] at asked
        obtain ⟨rfl, clear⟩ := asked
        have answered : (answer now (.queryStatus id') s).1 =
            .ok (schedule needed result (polled + 1)) := by
          rw [answer_of_clear clear]
          exact congrArg Except.ok h.poll_eq.1
        have solid : Text.trim id' = id' ∧ id' ≠ "" := by
          obtain ⟨operation, key⟩ := h.key
          rw [key]
          exact ⟨trim_jobId operation number, jobId_ne_empty operation number⟩
        rw [result_fetch now solid.1 solid.2, answered, Except.bind, ofRaw?_schedule]
        rfl
      · rw [if_neg asked, if_neg asked]
    | _ => rfl
  | _ => rfl

/-! ## All polls -/

/-- What the polls of a job tell along steps, as far as they meet no fault. -/
def findings (id : String) (s : Cluster) : List Step → List JobStatus
  | [] => []
  | step :: rest => (finding? id s step).toList ++ findings id (s.take step) rest

/-- The polls of a job tell what its schedule says, one after another. -/
theorem Tracked.findings_eq {id : String} {number needed : Nat} {result : AdminResponse}
    {s : Cluster} {polled since : Nat} (h : Tracked id number needed result s polled since)
    (steps : List Step)
    (few : since + tally (fun s step => (s.queued? step).isSome) s steps < maxTrackedJobs) :
    findings id s steps =
      (List.range' (polled + 1) (tally (polls id) s steps)).map (statusAt id needed result) := by
  induction steps generalizing s polled since with
  | nil => rfl
  | cons step steps ih =>
    simp only [tally, ← Nat.add_assoc] at few
    rw [findings, h.finding?_eq step, ih (h.take step (by omega)) few, tally]
    cases polls id s step with
    | true => simp [Nat.add_comm 1, List.range'_succ]
    | false => simp

/-! ## The first final status -/

/-- A job is finished from its final poll on, to be forgotten later. -/
theorem isTerminal_stateAt {needed : Nat} (counts : needed ≤ maxPolls) (result : AdminResponse)
    {n : Nat} (positive : 0 < n) :
    (stateAt needed result n).isTerminal = decide (finalPoll needed ≤ n) := by
  have known : needed ≤ lastPoll needed := by
    simp only [maxPolls, UInt32.size, lastPoll] at counts ⊢
    omega
  rw [Bool.eq_iff_iff, decide_eq_true_eq, finalPoll]
  unfold stateAt
  split
  · simp only [JobState.isTerminal, true_iff]
    omega
  · split
    · have finished :
          (if result.isSuccess then JobState.completed else .failed).isTerminal = true := by
        split <;> rfl
      simp only [finished, true_iff]
      omega
    · have unfinished : (if n = 1 then JobState.submitted else .running).isTerminal = false := by
        split <;> rfl
      simp only [unfinished, Bool.false_eq_true, false_iff]
      omega

/-- The final poll tells whether the work succeeded, and what it failed with. -/
theorem statusAt_finalPoll (id : String) {needed : Nat} (counts : needed ≤ maxPolls)
    (result : AdminResponse) :
    statusAt id needed result (finalPoll needed) =
      ⟨id, if result.isSuccess then .completed else .failed, result.errors, none⟩ := by
  have known : ¬ lastPoll needed < finalPoll needed := by
    simp only [maxPolls, UInt32.size, lastPoll, finalPoll] at counts ⊢
    omega
  have finished : needed ≤ finalPoll needed := Nat.le_max_right 1 needed
  rw [statusAt, stateAt, if_neg known, if_pos finished]
  cases success : result.isSuccess with
  | true => simp [result.errors_of_isSuccess success]
  | false => simp

/-- **The first final status of a job tells what its work came to**, however the polls of it are
mixed with other steps, and comes with the poll that the job needs. -/
theorem Tracked.find?_findings {id : String} {number needed : Nat} {result : AdminResponse}
    {s : Cluster} {since : Nat} (h : Tracked id number needed result s 0 since)
    (counts : needed ≤ maxPolls) (steps : List Step)
    (few : since + tally (fun s step => (s.queued? step).isSome) s steps < maxTrackedJobs) :
    (findings id s steps).find? (·.state.isTerminal) =
      if tally (polls id) s steps < finalPoll needed then none
      else some ⟨id, if result.isSuccess then .completed else .failed, result.errors, none⟩ := by
  have positive : 0 < finalPoll needed := Nat.lt_of_lt_of_le Nat.one_pos (Nat.le_max_left 1 needed)
  rw [h.findings_eq steps few, List.find?_map]
  split
  · next early =>
    rw [Option.map_eq_none_iff, List.find?_range'_eq_none]
    intro n after before
    rw [Function.comp, statusAt, isTerminal_stateAt counts result (by omega), Bool.not_eq_true',
      decide_eq_false_iff_not]
    omega
  · next enough =>
    rw [← statusAt_finalPoll id counts result, Option.map_eq_some_iff]
    refine ⟨finalPoll needed, List.find?_range'_eq_some.mpr ⟨?_, ?_, fun n after before => ?_⟩, rfl⟩
    · rw [Function.comp, statusAt, isTerminal_stateAt counts result positive, decide_eq_true_eq]
    · rw [List.mem_range'_1]
      omega
    · rw [Function.comp, statusAt, isTerminal_stateAt counts result (by omega), Bool.not_eq_true',
        decide_eq_false_iff_not]
      omega

end Cluster

end ClusterBackup.Simulated
