/-
ClusterBackup.Proofs.Simulated.PollSchedule — what the polls of a job find.

A job answers its polls by a schedule of its own: how many there were, how
many it takes, and what its work came to when it was queued are all that
counts. `Tracked` is the invariant behind it: the table holds the job with
the count of its polls until the last one was answered, and not after
that. It is kept by whatever else happens, as long as too few jobs were
queued since to crowd the job out: the numbers of those that were queued
since do not fill the table, so there is an older one to forget.
-/
import ClusterBackup.Proofs.Simulated.JobTable

namespace ClusterBackup.Simulated

/-- The last poll that finds a job: the sixteenth after the first that finds it finished, or the
last that 32 bits can count. -/
def lastPoll (needed : Nat) : Nat := min (needed + 16) 4294967295

/-- What the `n`-th poll finds of a job that needs so many polls to finish. -/
def schedule (needed : Nat) (result : AdminResponse) (n : Nat) : RawJobStatus :=
  if lastPoll needed < n then .ofState "notfound"
  else if needed ≤ n then
    if result.isSuccess then .ofState "completed"
    else { RawJobStatus.ofState "failed" with errors := result.errors }
  else if n = 1 then .ofState "submitted"
  else .ofState "running"

theorem lastPoll_pos (needed : Nat) : 0 < lastPoll needed := by
  unfold lastPoll
  omega

namespace Cluster

/-! ## Jobs that are forgotten -/

theorem lookup_filter {jobs : List (String × Job)} {id : String} {job : Job}
    (known : jobs.lookup id = some job) {keep : String × Job → Bool}
    (kept : keep (id, job) = true) : (jobs.filter keep).lookup id = some job := by
  obtain ⟨before, rest, rfl, other⟩ := List.lookup_eq_some_iff.mp known
  rw [List.lookup_eq_some_iff]
  refine ⟨before.filter keep, rest.filter keep, ?_, ?_⟩
  · rw [List.filter_append, List.filter_cons_of_pos kept]
  · intro entry inside
    exact other entry (List.mem_filter.mp inside).1

theorem lookup_eq_none_of_sublist {jobs fewer : List (String × Job)} {id : String}
    (unknown : jobs.lookup id = none) (sub : fewer.Sublist jobs) : fewer.lookup id = none := by
  rw [List.lookup_eq_none_iff] at unknown ⊢
  intro entry inside
  exact unknown entry (sub.subset inside)

namespace JobTable

variable {jobs : List (String × Job)} {last : Nat}

/-- A table holds no more jobs than there are numbers from its oldest one on. -/
theorem length_le (h : JobTable jobs last) {first : Nat}
    (oldest : ∀ entry ∈ jobs, first ≤ entry.2.sequence) : jobs.length ≤ last + 1 - first := by
  have inside : jobs.map (·.2.sequence) ⊆ List.range' first (last + 1 - first) := by
    intro n taken
    obtain ⟨entry, member, rfl⟩ := List.mem_map.mp taken
    have low := oldest entry member
    have high := h.issued entry member
    rw [List.mem_range'_1]
    omega
  have bound := (h.distinct.subperm inside).length_le
  rwa [List.length_map, List.length_range'] at bound

/-- A job is not crowded out by the few that were queued after it. -/
theorem lookup_makeRoom (h : JobTable jobs last) {id : String} {job : Job}
    (known : jobs.lookup id = some job) (recent : last + 1 < job.sequence + maxTrackedJobs) :
    (makeRoom jobs).lookup id = some job := by
  unfold makeRoom
  split
  · exact known
  · next full =>
    split
    · next n oldest =>
      obtain ⟨-, least⟩ := List.min?_eq_some_iff.mp oldest
      -- Were this job the oldest, all numbers would be among the few given out since.
      have older : n ≠ job.sequence := by
        rintro rfl
        have bound := h.length_le fun entry inside =>
          least entry.2.sequence (List.mem_map.mpr ⟨entry, inside, rfl⟩)
        have number : job.sequence ≤ last := h.issued (id, job) (mem_of_lookup known)
        omega
      exact lookup_filter known (by simpa using older.symm)
    · exact known

end JobTable

/-! ## One poll -/

theorem lookup_map_update (jobs : List (String × Job)) (id id' : String) (job : Job) :
    (jobs.map fun j => if j.1 = id' then (id', job) else j).lookup id =
      if id = id' then (jobs.lookup id).map fun _ => job else jobs.lookup id := by
  induction jobs with
  | nil => simp
  | cons entry rest ih =>
    obtain ⟨key, old⟩ := entry
    rw [List.map_cons]
    by_cases found : id = key
    · subst found
      by_cases same : id = id'
      · simp [same]
      · simp [same]
    · by_cases same : key = id'
      · subst same
        simpa [List.lookup_cons, found, beq_eq_false_iff_ne.mpr found] using ih
      · simpa [List.lookup_cons, same, beq_eq_false_iff_ne.mpr found] using ih

/-- A poll of another job does not count. -/
theorem lookup_poll_of_ne {s : Cluster} {id id' : String} (other : id ≠ id') :
    (s.poll id').2.jobs.lookup id = s.jobs.lookup id := by
  unfold poll
  split
  · rfl
  · simp only
    split
    · exact (Table.get?_erase s.jobs id' id).trans (if_neg other)
    · rw [lookup_map_update, if_neg other]

/-- A poll of a job that is not known finds nothing and changes nothing. -/
theorem poll_of_unknown {s : Cluster} {id : String} (unknown : s.jobs.lookup id = none) :
    s.poll id = (.ofState "notfound", s) := by
  simp [poll, unknown]

/-- A poll of a known job finds what the schedule says, and counts until the last one. -/
theorem poll_of_known {s : Cluster} {id : String} {number n : Nat} {result : AdminResponse}
    (known : s.jobs.lookup id = some ⟨number, n, result⟩)
    (early : n < lastPoll s.config.simulatedJobPolls.toNat) :
    (s.poll id).1 = schedule s.config.simulatedJobPolls.toNat result (n + 1) ∧
      (s.poll id).2.jobs.lookup id =
        if n + 1 < lastPoll s.config.simulatedJobPolls.toNat then some ⟨number, n + 1, result⟩
        else none := by
  generalize needed_eq : s.config.simulatedJobPolls.toNat = needed at early ⊢
  have counted : saturate (n + 1) = n + 1 := by
    simp only [saturate, maxPolls, UInt32.size, lastPoll] at early ⊢
    omega
  have final : saturate (needed + terminalPollsRetained) = lastPoll needed := rfl
  unfold poll
  simp only [known, needed_eq, counted, final]
  constructor
  · rw [schedule, if_neg (by omega), reveal]
  · by_cases late : lastPoll needed ≤ n + 1
    · rw [if_pos late, if_neg (by omega)]
      exact (Table.get?_erase s.jobs id id).trans (if_pos rfl)
    · rw [if_neg late, if_pos (by omega), lookup_map_update, if_pos rfl, known]
      rfl

/-! ## Every poll -/

/-- The cluster knows of a job, polled so many times, that so many others were queued after. -/
structure Tracked (id : String) (number needed : Nat) (result : AdminResponse) (s : Cluster)
    (polled since : Nat) : Prop where
  table : JobTable s.jobs s.nextRequest
  needs : s.config.simulatedJobPolls.toNat = needed
  key : ∃ operation, id = jobId operation number
  known : s.jobs.lookup id =
    if polled < lastPoll needed then some ⟨number, polled, result⟩ else none
  last : s.nextRequest = number + since

namespace Tracked

variable {id : String} {number needed : Nat} {result : AdminResponse} {s : Cluster}
  {polled since : Nat}

/-- Queueing another job does not crowd this one out, if few enough were queued. -/
theorem lookup_queue (h : Tracked id number needed result s polled since)
    (few : since + 1 < maxTrackedJobs) (operation : Operation) (job : Job) :
    (makeRoom s.jobs ++ [(jobId operation (s.nextRequest + 1), job)]).lookup id =
      s.jobs.lookup id := by
  have other : id ≠ jobId operation (s.nextRequest + 1) := by
    obtain ⟨operation', key⟩ := h.key
    intro same
    have equal := (jobId_injective (key.symm.trans same)).2
    have last := h.last
    omega
  rw [List.lookup_append, List.lookup_cons, beq_eq_false_iff_ne.mpr other, List.lookup_nil,
    Option.or_none]
  have known := h.known
  split at known
  · rw [known]
    have last := h.last
    exact h.table.lookup_makeRoom known (by simp only; omega)
  · rw [known]
    exact lookup_eq_none_of_sublist known (makeRoom_sublist s.jobs)

/-- A poll of the job is answered by the schedule, and counts. -/
theorem poll_eq (h : Tracked id number needed result s polled since) :
    (s.poll id).1 = schedule needed result (polled + 1) ∧
      (s.poll id).2.jobs.lookup id =
        if polled + 1 < lastPoll needed then some ⟨number, polled + 1, result⟩ else none := by
  have known := h.known
  have needs := h.needs
  subst needs
  by_cases early : polled < lastPoll s.config.simulatedJobPolls.toNat
  · rw [if_pos early] at known
    exact poll_of_known known early
  · rw [if_neg early] at known
    rw [poll_of_unknown known, schedule, if_pos (by omega), if_neg (by omega)]
    exact ⟨rfl, known⟩

/-- A step keeps track of the job: it counts the polls and the jobs that are queued. -/
theorem take (h : Tracked id number needed result s polled since) (step : Step)
    (few : since + (if (s.queued? step).isSome then 1 else 0) < maxTrackedJobs) :
    Tracked id number needed result (s.take step) (polled + if polls id s step then 1 else 0)
      (since + if (s.queued? step).isSome then 1 else 0) := by
  have table := jobTable_take h.table step
  cases jobStep_take s step with
  | idle queued unpolled desk =>
    simp only [Cluster.desk, Prod.mk.injEq] at desk
    obtain ⟨config, jobs, next⟩ := desk
    refine ⟨table, ?_, h.key, ?_, ?_⟩
    · rw [config, h.needs]
    · rw [jobs, h.known, unpolled]
      rfl
    · rw [next, h.last, queued]
      rfl
  | queue operation work queued unpolled desk =>
    simp only [Cluster.desk, Prod.mk.injEq] at desk
    obtain ⟨config, jobs, next⟩ := desk
    rw [queued] at few ⊢
    refine ⟨table, ?_, h.key, ?_, ?_⟩
    · rw [config, h.needs]
    · rw [jobs, h.lookup_queue few, h.known, unpolled]
      rfl
    · rw [next, h.last]
      rfl
  | poll id' queued polled' desk =>
    simp only [Cluster.desk, Prod.mk.injEq] at desk
    obtain ⟨config, jobs, next⟩ := desk
    refine ⟨table, ?_, h.key, ?_, ?_⟩
    · rw [config, h.needs]
    · rw [jobs, polled']
      by_cases same : id' = id
      · subst same
        simpa using h.poll_eq.2
      · rw [lookup_poll_of_ne (Ne.symm same), h.known]
        simp [same]
    · rw [next, h.last, queued]
      rfl

/-- Steps keep track of the job, as long as too few jobs are queued to crowd it out. -/
theorem after (h : Tracked id number needed result s polled since) (steps : List Step)
    (few : since + tally (fun s step => (s.queued? step).isSome) s steps < maxTrackedJobs) :
    Tracked id number needed result (s.after steps) (polled + tally (polls id) s steps)
      (since + tally (fun s step => (s.queued? step).isSome) s steps) := by
  induction steps generalizing s polled since with
  | nil => exact h
  | cons step steps ih =>
    simp only [tally, ← Nat.add_assoc] at few ⊢
    exact ih (h.take step (by omega)) few

end Tracked

/-- A job is tracked as soon as it is at the end of the table under the next number. -/
theorem tracked_of_desk {s s' : Cluster} (table : JobTable s.jobs s.nextRequest)
    {operation : Operation} {result : AdminResponse}
    (desk : s'.desk = (s.config, makeRoom s.jobs ++
      [(jobId operation (s.nextRequest + 1), ⟨s.nextRequest + 1, 0, result⟩)],
      s.nextRequest + 1)) :
    Tracked (jobId operation (s.nextRequest + 1)) (s.nextRequest + 1)
      s.config.simulatedJobPolls.toNat result s' 0 0 := by
  simp only [Cluster.desk, Prod.mk.injEq] at desk
  obtain ⟨config, jobs, next⟩ := desk
  refine ⟨?_, by rw [config], ⟨operation, rfl⟩, ?_, next⟩
  · rw [jobs, next]
    exact table.queue operation result
  · have fresh := table.lookup_next operation (Nat.lt_succ_self s.nextRequest)
    rw [jobs, List.lookup_append, lookup_eq_none_of_sublist fresh (makeRoom_sublist s.jobs),
      if_pos (lastPoll_pos _)]
    simp

/-- A job is tracked from the step on that queues it. -/
theorem tracked_of_queued {s : Cluster} (table : JobTable s.jobs s.nextRequest) {step : Step}
    {id : String} {result : AdminResponse} (queued : s.queued? step = some (id, result)) :
    Tracked id (s.nextRequest + 1) s.config.simulatedJobPolls.toNat result (s.take step) 0 0 := by
  obtain ⟨operation, rfl, desk⟩ := desk_of_queued queued
  exact tracked_of_desk table desk

/-- **The polls of a job follow its schedule.** In every cluster that is reached, once a step
queues a job, and whatever happens after that, as long as fewer jobs are queued than the table
holds: a poll that meets no fault is answered by how many such polls there were, how many the job
needs, and what its work came to when it was queued. -/
theorem answer_eq_schedule {s : Cluster} (reached : Reachable s) {step : Step} {id : String}
    {result : AdminResponse} (queued : s.queued? step = some (id, result)) (steps : List Step)
    (few : tally (fun s step => (s.queued? step).isSome) (s.take step) steps < maxTrackedJobs)
    (now : DateTime) (clear : ((s.take step).after steps).met? (.queryStatus id) = none) :
    (answer now (.queryStatus id) ((s.take step).after steps)).1 =
      .ok (schedule s.config.simulatedJobPolls.toNat result
        (tally (polls id) (s.take step) steps + 1)) := by
  have tracked := (tracked_of_queued reached.jobTable queued).after steps (by omega)
  rw [Nat.zero_add, Nat.zero_add] at tracked
  rw [answer_of_clear clear]
  exact congrArg Except.ok tracked.poll_eq.1

/-- A job that needs no polls is found finished sixteen times, and is forgotten at the next poll. -/
theorem answer_eq_schedule_forgotten :
    (answer noon (.queryStatus (jobId .backup 1))
        (((after { config := { simulatedJobPolls := 0 } } [.createCollection "catalog"]).take
            (.call noon (.submitBackup ⟨.default, none, none⟩))).after
          (List.replicate 16 (.call noon (.queryStatus (jobId .backup 1)))))).1 =
      .ok (.ofState "notfound") := by
  have reached : Reachable
      (after { config := { simulatedJobPolls := 0 } } [.createCollection "catalog"]) :=
    ⟨_, _, rfl⟩
  have accepted :
      (after { config := { simulatedJobPolls := 0 } } [.createCollection "catalog"]).queued?
          (.call noon (.submitBackup ⟨.default, none, none⟩)) =
        some (jobId .backup 1, AdminResponse.ok.withMessage (Snapshot.name noon)) := rfl
  exact answer_eq_schedule reached accepted _ (by decide) noon (by rfl)

end Cluster

end ClusterBackup.Simulated
