/-
ClusterBackup.Proofs.Simulated.JobLedger — the jobs of a simulated cluster
against the list of all that it ever accepted.

`accepted` lists the ids under which steps queue jobs, in their order, and
the list forgets nothing. `Ledger` ties the table of jobs to it: the
number of a job is its place in the list, and as many numbers were given
out as the list is long. So an id never comes twice, whatever became of
the job that had it first.

A full table drops its oldest job for a new one. The table has no order of
its own; `argmin_of_perm` says that going through it in any order finds
the same job, since no two jobs have one number.
-/
import ClusterBackup.Proofs.Simulated.JobTable
import Mathlib.Data.List.MinMax
import Mathlib.Data.List.Nodup

namespace ClusterBackup.Simulated

namespace Cluster

/-- The ids under which steps queue jobs, in their order. -/
def accepted (s : Cluster) : List Step → List String
  | [] => []
  | step :: rest => ((s.queued? step).map (·.1)).toList ++ accepted (s.take step) rest

/-- The jobs of a cluster that accepted jobs under these ids, one after another. -/
structure Ledger (s : Cluster) (ids : List String) : Prop where
  table : JobTable s.jobs s.nextRequest
  count : ids.length = s.nextRequest
  /-- An id is made of its place in the list. -/
  numbered : ∀ n id, ids[n]? = some id → ∃ operation, id = jobId operation (n + 1)
  /-- The number of a job is the place of its id. -/
  listed : ∀ entry ∈ s.jobs, ∃ n, entry.2.sequence = n + 1 ∧ ids[n]? = some entry.1

/-- How a job comes into the table. -/
inductive Admitted (s : Cluster) (entry : String × Job) (s' : Cluster) : Prop where
  | room (room : s.jobs.length < maxTrackedJobs) (jobs : s'.jobs = s.jobs ++ [entry])
  /-- The oldest job is dropped, which is the one that is found in every order. -/
  | full (full : s.jobs.length = maxTrackedJobs) (oldest : String × Job)
      (inside : oldest ∈ s.jobs)
      (least : ∀ other ∈ s.jobs, other ≠ oldest → oldest.2.sequence < other.2.sequence)
      (found : ∀ order : List (String × Job), order.Perm s.jobs →
        order.argmin (·.2.sequence) = some oldest)
      (jobs : s'.jobs = s.jobs.erase oldest ++ [entry])

/-! ## Steps -/

/-- A poll puts nothing into the table. -/
theorem mem_poll {s : Cluster} {id : String} {entry : String × Job}
    (h : entry ∈ (s.poll id).2.jobs) :
    ∃ old ∈ s.jobs, old.1 = entry.1 ∧ old.2.sequence = entry.2.sequence := by
  unfold poll at h
  split at h
  · exact ⟨entry, h, rfl, rfl⟩
  · next job known =>
    simp only at h
    split at h
    · exact ⟨entry, (List.mem_filter.mp h).1, rfl, rfl⟩
    · obtain ⟨old, inside, rfl⟩ := List.mem_map.mp h
      split
      · exact ⟨(id, job), mem_of_lookup known, rfl, rfl⟩
      · exact ⟨old, inside, rfl, rfl⟩

namespace Ledger

variable {s : Cluster} {ids : List String}

theorem empty (config : Config) : Ledger { config } [] where
  table := JobTable.empty
  count := rfl
  numbered n id inside := by simp at inside
  listed entry inside := nomatch inside

/-- An id of the list was made of a number that was given out. -/
theorem exists_of_mem (h : Ledger s ids) {id : String} (inside : id ∈ ids) :
    ∃ operation n, id = jobId operation n ∧ n ≤ s.nextRequest := by
  obtain ⟨n, place⟩ := List.mem_iff_getElem?.mp inside
  obtain ⟨operation, key⟩ := h.numbered n id place
  have given := (List.getElem?_eq_some_iff.mp place).1
  have count := h.count
  exact ⟨operation, n + 1, key, by omega⟩

/-- The next id is not in the list. -/
theorem next_not_mem (h : Ledger s ids) (operation : Operation) :
    jobId operation (s.nextRequest + 1) ∉ ids := by
  intro inside
  obtain ⟨operation', n, key, given⟩ := h.exists_of_mem inside
  have same := (jobId_injective key).2
  omega

/-- A step adds the id of the job that it queues. -/
theorem take (h : Ledger s ids) (step : Step) :
    Ledger (s.take step) (ids ++ ((s.queued? step).map (·.1)).toList) := by
  have table := jobTable_take h.table step
  cases jobStep_take s step with
  | idle queued polled desk =>
    simp only [Cluster.desk, Prod.mk.injEq] at desk
    obtain ⟨-, jobs, next⟩ := desk
    rw [queued, Option.map_none, Option.toList_none, List.append_nil]
    exact ⟨table, h.count.trans next.symm, h.numbered, jobs ▸ h.listed⟩
  | queue operation result queued polled desk =>
    simp only [Cluster.desk, Prod.mk.injEq] at desk
    obtain ⟨-, jobs, next⟩ := desk
    rw [queued, Option.map_some, Option.toList_some]
    refine ⟨table, ?_, fun n id place => ?_, fun entry inside => ?_⟩
    · rw [List.length_append, List.length_singleton, h.count, next]
    · by_cases old : n < ids.length
      · rw [List.getElem?_append_left old] at place
        exact h.numbered n id place
      · obtain ⟨given, same⟩ := List.getElem?_eq_some_iff.mp place
        have last : n = s.nextRequest := by
          rw [List.length_append, List.length_singleton, h.count] at given
          rw [h.count] at old
          omega
        subst last
        refine ⟨operation, ?_⟩
        simpa [← h.count] using place.symm
    · rw [jobs] at inside
      rcases List.mem_append.mp inside with old | new
      · obtain ⟨n, number, place⟩ := h.listed entry ((makeRoom_sublist s.jobs).subset old)
        have given := (List.getElem?_eq_some_iff.mp place).1
        exact ⟨n, number, by rw [List.getElem?_append_left given, place]⟩
      · rw [List.mem_singleton.mp new]
        exact ⟨s.nextRequest, rfl, by simp [← h.count]⟩
  | poll id queued polled desk =>
    simp only [Cluster.desk, Prod.mk.injEq] at desk
    obtain ⟨-, jobs, next⟩ := desk
    rw [queued, Option.map_none, Option.toList_none, List.append_nil]
    refine ⟨table, h.count.trans next.symm, h.numbered, fun entry inside => ?_⟩
    rw [jobs] at inside
    obtain ⟨old, oldInside, key, number⟩ := mem_poll inside
    rw [← key, ← number]
    exact h.listed old oldInside

/-- Steps add the ids of the jobs that they queue. -/
theorem after (h : Ledger s ids) (steps : List Step) :
    Ledger (s.after steps) (ids ++ s.accepted steps) := by
  induction steps generalizing s ids with
  | nil => simpa [accepted] using h
  | cons step steps ih =>
    rw [accepted, ← List.append_assoc]
    exact ih (h.take step)

end Ledger

/-! ## A full table -/

theorem JobTable.eq_of_sequence_eq {jobs : List (String × Job)} {last : Nat}
    (h : JobTable jobs last) {e e' : String × Job} (he : e ∈ jobs) (he' : e' ∈ jobs)
    (same : e.2.sequence = e'.2.sequence) : e = e' :=
  List.inj_on_of_nodup_map h.distinct he he' same

/-- Whatever the order in which a table is gone through, its oldest job is found. -/
theorem argmin_of_perm {jobs order : List (String × Job)} {oldest : String × Job}
    (inside : oldest ∈ jobs)
    (least : ∀ other ∈ jobs, other ≠ oldest → oldest.2.sequence < other.2.sequence)
    (perm : order.Perm jobs) : order.argmin (·.2.sequence) = some oldest := by
  cases found : order.argmin (·.2.sequence) with
  | none =>
    rw [List.argmin_eq_none] at found
    rw [found] at perm
    exact absurd (perm.mem_iff.mpr inside) List.not_mem_nil
  | some entry =>
    have smallest : entry.2.sequence ≤ oldest.2.sequence :=
      List.le_of_mem_argmin (f := (·.2.sequence)) (perm.mem_iff.mpr inside) found
    have member : entry ∈ jobs := perm.mem_iff.mp (List.argmin_mem found)
    by_cases same : entry = oldest
    · rw [same]
    · have older := least entry member same
      omega

/-- A full table makes room by dropping its oldest job. -/
theorem JobTable.makeRoom_of_full {jobs : List (String × Job)} {last : Nat}
    (h : JobTable jobs last) (full : jobs.length = maxTrackedJobs) :
    ∃ oldest ∈ jobs, (∀ other ∈ jobs, other ≠ oldest →
      oldest.2.sequence < other.2.sequence) ∧ makeRoom jobs = jobs.erase oldest := by
  have some_job : jobs ≠ [] := by
    rintro rfl
    exact absurd full (by decide)
  obtain ⟨n, smallest⟩ : ∃ n, oldest? jobs = some n := by
    rw [← Option.ne_none_iff_exists', oldest?, ne_eq, List.min?_eq_none_iff, List.map_eq_nil_iff]
    exact some_job
  obtain ⟨member, least⟩ := List.min?_eq_some_iff.mp smallest
  obtain ⟨oldest, inside, rfl⟩ := List.mem_map.mp member
  refine ⟨oldest, inside, fun other within different => ?_, ?_⟩
  · have atMost := least other.2.sequence (List.mem_map.mpr ⟨other, within, rfl⟩)
    have apart : oldest.2.sequence ≠ other.2.sequence := fun same =>
      different (h.eq_of_sequence_eq within inside same.symm)
    omega
  · -- Numbers are distinct, so to drop a number is to drop a single job.
    rw [makeRoom, if_neg (by omega), smallest, (h.distinct.of_map _).erase_eq_filter]
    refine List.filter_congr fun other within => ?_
    rw [Bool.eq_iff_iff, bne_iff_ne, bne_iff_ne, ne_eq, ne_eq, not_iff_not]
    exact ⟨h.eq_of_sequence_eq within inside, fun same => by rw [same]⟩

/-- A job that is accepted comes into the table. -/
theorem admitted_of_queued {s : Cluster} (table : JobTable s.jobs s.nextRequest) {step : Step}
    {id : String} {result : AdminResponse} (queued : s.queued? step = some (id, result)) :
    Admitted s (id, ⟨s.nextRequest + 1, 0, result⟩) (s.take step) := by
  obtain ⟨-, -, desk⟩ := desk_of_queued queued
  simp only [Cluster.desk, Prod.mk.injEq] at desk
  obtain ⟨-, jobs, -⟩ := desk
  rcases Nat.lt_or_eq_of_le table.bounded with room | full
  · exact .room room (by rw [jobs, makeRoom, if_pos room])
  · obtain ⟨oldest, inside, least, dropped⟩ := table.makeRoom_of_full full
    exact .full full oldest inside least (fun order perm => argmin_of_perm inside least perm)
      (by rw [jobs, dropped])

/-- **The jobs of every run are kept in good order.** The table is well-formed, and each job has
the number that its id has in the list of all that were accepted. A job that is accepted takes an
id that was never given before; a table with room keeps all others, and a full one drops the oldest
of them. -/
theorem ledger_of_run (config : Config) (steps : List Step) :
    let s := Cluster.after { config } steps
    Ledger s (accepted { config } steps) ∧
      ∀ step id result, s.queued? step = some (id, result) →
        id ∉ accepted { config } steps ∧
          Admitted s (id, ⟨s.nextRequest + 1, 0, result⟩) (s.take step) := by
  intro s
  have ledger : Ledger s (accepted { config } steps) := by
    simpa using (Ledger.empty config).after steps
  refine ⟨ledger, fun step id result queued => ⟨?_, admitted_of_queued ledger.table queued⟩⟩
  obtain ⟨operation, rfl, -⟩ := desk_of_queued queued
  exact ledger.next_not_mem operation

/-! ## Filling a table -/

/-- A table grows by the job that comes into it until it is full. -/
theorem Admitted.length_eq {s s' : Cluster} {entry : String × Job} (h : Admitted s entry s') :
    s'.jobs.length = min (s.jobs.length + 1) maxTrackedJobs := by
  cases h with
  | room room jobs =>
    rw [jobs, List.length_append, List.length_singleton]
    omega
  | full full oldest inside least found jobs =>
    have some_job : 0 < s.jobs.length := List.length_pos_of_mem inside
    rw [jobs, List.length_append, List.length_singleton, List.length_erase_of_mem inside]
    omega

/-- A cluster without faults accepts every backup that is to be queued. -/
theorem take_submitBackup {s : Cluster} (table : JobTable s.jobs s.nextRequest)
    (faultless : s.faults = []) (now : DateTime) (r : SnapshotRequest) :
    (s.take (.call now (.submitBackup r))).faults = [] ∧
      (s.take (.call now (.submitBackup r))).nextRequest = s.nextRequest + 1 ∧
      (s.take (.call now (.submitBackup r))).jobs.length =
        min (s.jobs.length + 1) maxTrackedJobs := by
  have queued := queued?_submitBackup now (met?_of_faultless faultless (.submitBackup r))
  obtain ⟨-, -, desk⟩ := desk_of_queued queued
  simp only [Cluster.desk, Prod.mk.injEq] at desk
  refine ⟨?_, desk.2.2, (admitted_of_queued table queued).length_eq⟩
  rw [take, answer_of_faultless faultless]
  rfl

/-- Submission after submission fills the table, and then keeps it full. -/
theorem table_fills (config : Config) (now : DateTime) (r : SnapshotRequest) (n : Nat) :
    let s := Cluster.after { config } (List.replicate n (.call now (.submitBackup r)))
    s.faults = [] ∧ s.nextRequest = n ∧ s.jobs.length = min n maxTrackedJobs := by
  induction n with
  | zero => exact ⟨rfl, rfl, rfl⟩
  | succ n ih =>
    obtain ⟨faultless, next, length⟩ := ih
    have ledger := (Ledger.empty config).after (List.replicate n (.call now (.submitBackup r)))
    obtain ⟨faultless', next', length'⟩ := take_submitBackup ledger.table faultless now r
    rw [List.replicate_succ', after_concat]
    refine ⟨faultless', by rw [next', next], ?_⟩
    rw [length', length]
    omega

/-- As many backups of a missing collection as a table holds jobs. -/
def backlog : List Step :=
  List.replicate maxTrackedJobs (.call noon (.submitBackup ⟨.default, none, none⟩))

/-- A cluster with a full table. -/
def laden : Cluster := Cluster.after { config := .simulated } backlog

/-- A restore that is accepted by a cluster with a full table: it gets an id that is new, and the
first of the backups is dropped. -/
theorem ledger_of_run_full :
    laden.jobs.length = maxTrackedJobs ∧
      ∃ result, laden.queued? (.call noon (.submitRestore ⟨.default, none, none⟩)) =
          some ("restore-00001025", result) ∧
        "restore-00001025" ∉ accepted { config := .simulated } backlog ∧
        Admitted laden ("restore-00001025", ⟨1025, 0, result⟩)
          (laden.take (.call noon (.submitRestore ⟨.default, none, none⟩))) := by
  have filled := table_fills .simulated noon ⟨.default, none, none⟩ maxTrackedJobs
  have next : laden.nextRequest = 1024 := filled.2.1
  have queued := queued?_submitRestore noon
    (met?_of_faultless (s := laden) filled.1 (.submitRestore ⟨.default, none, none⟩))
  have key : jobId .restore (1024 + 1) = "restore-00001025" := rfl
  rw [next, key] at queued
  have admitted := (ledger_of_run .simulated backlog).2 _ _ _ queued
  change _ ∧ Admitted laden (_, ⟨laden.nextRequest + 1, 0, _⟩) _ at admitted
  rw [next] at admitted
  exact ⟨filled.2.2.trans (Nat.min_self _), _, queued, admitted⟩

end Cluster

end ClusterBackup.Simulated
