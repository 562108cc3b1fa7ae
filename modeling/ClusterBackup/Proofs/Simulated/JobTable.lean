/-
ClusterBackup.Proofs.Simulated.JobTable — what becomes of the jobs of a
simulated cluster.

A step queues a job, polls one, or leaves the jobs alone: `jobStep_take`
says so of every step, and no other proof looks at the calls again. The
table of jobs keeps its shape through all three (`JobTable`): ids are made
of the number of their job, numbers are distinct and were given out, and
there are never more jobs than the table holds.
-/
import ClusterBackup.Proofs.Simulated.Effect
import ClusterBackup.Proofs.Simulated.Step
import ClusterBackup.Proofs.Snapshot.Digits
import ClusterBackup.Proofs.Table
import Mathlib.Data.List.Perm.Subperm

namespace ClusterBackup.Simulated

namespace Cluster

/-! ## Request ids -/

/-- A request id tells the operation and the number of its job. -/
theorem jobId_injective {operation operation' : Operation} {m n : Nat}
    (h : jobId operation m = jobId operation' n) : operation = operation' ∧ m = n := by
  have chars := congrArg String.toList h
  simp only [jobId, sequenceText, String.toList_append, String.toList_ofList] at chars
  cases operation with
  | backup =>
    cases operation' with
    | backup => exact ⟨rfl, Snapshot.padded_injective 8 (List.append_cancel_left chars)⟩
    | restore => simp [Operation.label] at chars
  | restore =>
    cases operation' with
    | backup => simp [Operation.label] at chars
    | restore => exact ⟨rfl, Snapshot.padded_injective 8 (List.append_cancel_left chars)⟩

/-! ## The three kinds of steps -/

/-- The id of a job that was accepted. -/
def acceptedId? : Except Error Submission → Option String
  | .ok (.accepted id) => some id
  | _ => none

/-- The job that a step queues: its id, and what its work came to. -/
def queued? (s : Cluster) : Step → Option (String × AdminResponse)
  | .call now (.submitBackup r) =>
    (acceptedId? (answer now (.submitBackup r) s).1).map (·, (performBackup now r s).1)
  | .call now (.submitRestore r) =>
    (acceptedId? (answer now (.submitRestore r) s).1).map (·, (performRestore r s).1)
  | _ => none

/-- The step asks about a request id and meets no fault. -/
def polls (id : String) (s : Cluster) : Step → Bool
  | .call _ (.queryStatus id') => id' = id && (s.met? (.queryStatus id')).isNone
  | _ => false

/-- The part of a cluster that its jobs depend on. -/
def desk (s : Cluster) : Config × List (String × Job) × Nat := (s.config, s.jobs, s.nextRequest)

theorem desk_performBackup (now : DateTime) (r : SnapshotRequest) (s : Cluster) :
    (performBackup now r s).2.desk = s.desk := by
  unfold performBackup
  simp only
  split
  · split <;> rfl
  · rfl

theorem desk_performRestore (r : SnapshotRequest) (s : Cluster) :
    (performRestore r s).2.desk = s.desk := by
  unfold performRestore
  simp only
  split
  · rfl
  · split
    · split <;> rfl
    · rfl

theorem desk_performDelete (c : Collection) (s : Cluster) :
    (performDelete c s).2.desk = s.desk := by
  unfold performDelete
  split <;> rfl

theorem desk_performOptimize (c : Collection) (s : Cluster) :
    (performOptimize c s).2.desk = s.desk := by
  unfold performOptimize
  split <;> rfl

theorem desk_withLog (s : Cluster) (calls : List LoggedCall) (faults : List Injected) :
    (s.withLog calls faults).desk = s.desk := rfl

/-- A job is queued under the next number, with what its work came to. -/
theorem queue_eq {s : Cluster} (operation : Operation) {done : AdminResponse × Cluster}
    (kept : done.2.desk = s.desk) :
    (queue operation done).1 = .accepted (jobId operation (s.nextRequest + 1)) ∧
      (queue operation done).2.desk = (s.config, makeRoom s.jobs ++
        [(jobId operation (s.nextRequest + 1), ⟨s.nextRequest + 1, 0, done.1⟩)],
        s.nextRequest + 1) := by
  obtain ⟨result, s'⟩ := done
  simp only [desk, Prod.mk.injEq] at kept
  obtain ⟨config, jobs, next⟩ := kept
  simp [queue, track, desk, config, jobs, next]

/-- A backup that meets no fault when it is queued is accepted under the next number. -/
theorem queued?_submitBackup {s : Cluster} (now : DateTime) {r : SnapshotRequest}
    (clear : s.met? (.submitBackup r) = none) :
    s.queued? (.call now (.submitBackup r)) =
      some (jobId .backup (s.nextRequest + 1), (performBackup now r s).1) := by
  have accepted := (queue_eq .backup (desk_performBackup now r s)).1
  simp only [queued?, answer_of_clear clear, effect, accepted]
  rfl

/-- A restore that meets no fault when it is queued is accepted under the next number. -/
theorem queued?_submitRestore {s : Cluster} (now : DateTime) {r : SnapshotRequest}
    (clear : s.met? (.submitRestore r) = none) :
    s.queued? (.call now (.submitRestore r)) =
      some (jobId .restore (s.nextRequest + 1), (performRestore r s).1) := by
  have accepted := (queue_eq .restore (desk_performRestore r s)).1
  simp only [queued?, answer_of_clear clear, effect, accepted]
  rfl

/-- What a step does to the jobs. -/
inductive JobStep (s : Cluster) (step : Step) (s' : Cluster) : Prop where
  | idle (queued : s.queued? step = none) (polled : ∀ id, polls id s step = false)
      (desk : s'.desk = s.desk)
  | queue (operation : Operation) (result : AdminResponse)
      (queued : s.queued? step = some (jobId operation (s.nextRequest + 1), result))
      (polled : ∀ id, polls id s step = false)
      (desk : s'.desk = (s.config, makeRoom s.jobs ++
        [(jobId operation (s.nextRequest + 1), ⟨s.nextRequest + 1, 0, result⟩)],
        s.nextRequest + 1))
  | poll (id : String) (queued : s.queued? step = none)
      (polled : ∀ id', polls id' s step = decide (id = id'))
      (desk : s'.desk = (s.config, (s.poll id).2.jobs, s.nextRequest))

/-- A call that meets a fault leaves the jobs alone. -/
theorem jobStep_of_fault {s : Cluster} {now : DateTime} {call : AdminCall} {fault : Fault}
    (met : s.met? call = some fault) : JobStep s (.call now call) (s.take (.call now call)) := by
  refine .idle ?_ ?_ ?_
  · cases call with
    | submitBackup r | submitRestore r =>
      simp only [queued?, answer_of_fault met]
      cases fault <;> rfl
    | _ => rfl
  · intro id
    cases call with
    | queryStatus id' => simp [polls, met]
    | _ => rfl
  · rw [take, answer_of_fault met, desk_withLog]

/-- What a call does to the jobs if it meets no fault. -/
theorem jobStep_of_clear {s : Cluster} {now : DateTime} {call : AdminCall}
    (clear : s.met? call = none) : JobStep s (.call now call) (s.take (.call now call)) := by
  have taken : (s.take (.call now call)).desk = (effect now call s).2.desk := by
    rw [take, answer_of_clear clear, desk_withLog]
  cases call with
  | submitBackup r =>
    obtain ⟨-, kept⟩ := queue_eq .backup (desk_performBackup now r s)
    exact .queue .backup (performBackup now r s).1 (queued?_submitBackup now clear) (fun _ => rfl)
      (taken.trans kept)
  | submitRestore r =>
    obtain ⟨-, kept⟩ := queue_eq .restore (desk_performRestore r s)
    exact .queue .restore (performRestore r s).1 (queued?_submitRestore now clear) (fun _ => rfl)
      (taken.trans kept)
  | queryStatus id =>
    refine .poll id rfl (fun id' => by simp [polls, clear]) (taken.trans ?_)
    rw [effect, poll]
    split <;> rfl
  | backup r => exact .idle rfl (fun _ => rfl) (by rw [taken]; exact desk_performBackup now r s)
  | restore r => exact .idle rfl (fun _ => rfl) (by rw [taken]; exact desk_performRestore r s)
  | delete c => exact .idle rfl (fun _ => rfl) (by rw [taken]; exact desk_performDelete c s)
  | optimize c => exact .idle rfl (fun _ => rfl) (by rw [taken]; exact desk_performOptimize c s)
  | prepareRestore r => exact .idle rfl (fun _ => rfl) taken
  | collectionExists c => exact .idle rfl (fun _ => rfl) taken

/-- A step queues a job, polls one, or leaves the jobs alone. -/
theorem jobStep_take (s : Cluster) (step : Step) : JobStep s step (s.take step) := by
  cases step with
  | call now call =>
    cases met : s.met? call with
    | some fault => exact jobStep_of_fault met
    | none => exact jobStep_of_clear met
  | createCollection name => exact .idle rfl (fun _ => rfl) rfl
  | addBackup location name collection => exact .idle rfl (fun _ => rfl) rfl
  | inject kind fault persistent => exact .idle rfl (fun _ => rfl) rfl

/-- A step that queues a job gives it the next number, and leaves it at the end of the table. -/
theorem desk_of_queued {s : Cluster} {step : Step} {id : String} {result : AdminResponse}
    (queued : s.queued? step = some (id, result)) :
    ∃ operation, id = jobId operation (s.nextRequest + 1) ∧
      (s.take step).desk = (s.config, makeRoom s.jobs ++ [(id, ⟨s.nextRequest + 1, 0, result⟩)],
        s.nextRequest + 1) := by
  cases jobStep_take s step with
  | idle none _ _ =>
    rw [none] at queued
    contradiction
  | poll _ none _ _ =>
    rw [none] at queued
    contradiction
  | queue operation work same _ desk =>
    rw [same, Option.some.injEq, Prod.mk.injEq] at queued
    obtain ⟨rfl, rfl⟩ := queued
    exact ⟨operation, rfl, desk⟩

/-! ## The table of jobs -/

theorem makeRoom_sublist (jobs : List (String × Job)) : (makeRoom jobs).Sublist jobs := by
  unfold makeRoom
  split
  · exact List.Sublist.refl jobs
  · split
    · exact List.filter_sublist
    · exact List.Sublist.refl jobs

/-- There is room for one more job. -/
theorem length_makeRoom {jobs : List (String × Job)} (h : jobs.length ≤ maxTrackedJobs) :
    (makeRoom jobs).length < maxTrackedJobs := by
  unfold makeRoom
  split
  · next room => exact room
  · next full =>
    split
    · next n oldest =>
      obtain ⟨member, -⟩ := List.min?_eq_some_iff.mp oldest
      obtain ⟨entry, inside, same⟩ := List.mem_map.mp member
      have shorter : (jobs.filter (·.2.sequence != n)).length < jobs.length :=
        List.length_filter_lt_length_iff_exists.mpr ⟨entry, inside, by simp [same]⟩
      omega
    · next nothing =>
      rw [oldest?, List.min?_eq_none_iff, List.map_eq_nil_iff] at nothing
      rw [nothing, List.length_nil]
      decide

theorem mem_of_lookup {jobs : List (String × Job)} {id : String} {job : Job}
    (h : jobs.lookup id = some job) : (id, job) ∈ jobs := by
  obtain ⟨before, rest, rfl, -⟩ := List.lookup_eq_some_iff.mp h
  exact List.mem_append_right before List.mem_cons_self

/-- Well-formed tables of jobs, of which as many were queued as the number says. -/
structure JobTable (jobs : List (String × Job)) (last : Nat) : Prop where
  /-- The id of a job is made of its number. -/
  keyed : ∀ entry ∈ jobs, ∃ operation, entry.1 = jobId operation entry.2.sequence
  /-- The number of a job was given out. -/
  issued : ∀ entry ∈ jobs, entry.2.sequence ≤ last
  /-- No two jobs have the same number. -/
  distinct : (jobs.map (·.2.sequence)).Nodup
  bounded : jobs.length ≤ maxTrackedJobs

namespace JobTable

variable {jobs : List (String × Job)} {last : Nat}

theorem empty : JobTable [] 0 where
  keyed _ inside := nomatch inside
  issued _ inside := nomatch inside
  distinct := List.nodup_nil
  bounded := Nat.zero_le _

/-- Jobs with one id have one number. -/
theorem sequence_eq (h : JobTable jobs last) {e e' : String × Job} (he : e ∈ jobs)
    (he' : e' ∈ jobs) (same : e.1 = e'.1) : e.2.sequence = e'.2.sequence := by
  obtain ⟨operation, key⟩ := h.keyed e he
  obtain ⟨operation', key'⟩ := h.keyed e' he'
  rw [key, key'] at same
  exact (jobId_injective same).2

/-- The ids that come next are not in use. -/
theorem lookup_next (h : JobTable jobs last) (operation : Operation) {n : Nat} (later : last < n) :
    jobs.lookup (jobId operation n) = none := by
  rw [List.lookup_eq_none_iff]
  intro entry inside
  obtain ⟨operation', key⟩ := h.keyed entry inside
  have number := h.issued entry inside
  rw [bne_iff_ne, key]
  intro same
  have equal := (jobId_injective same).2
  omega

/-- Forgetting jobs keeps a table well-formed. -/
theorem sublist (h : JobTable jobs last) {fewer : List (String × Job)}
    (sub : fewer.Sublist jobs) : JobTable fewer last where
  keyed entry inside := h.keyed entry (sub.subset inside)
  issued entry inside := h.issued entry (sub.subset inside)
  distinct := h.distinct.sublist (sub.map _)
  bounded := Nat.le_trans sub.length_le h.bounded

/-- A new job takes the next number. -/
theorem queue (h : JobTable jobs last) (operation : Operation) (result : AdminResponse) :
    JobTable (makeRoom jobs ++ [(jobId operation (last + 1), ⟨last + 1, 0, result⟩)])
      (last + 1) := by
  have room := h.sublist (makeRoom_sublist jobs)
  constructor
  · intro entry inside
    rcases List.mem_append.mp inside with old | new
    · exact room.keyed entry old
    · rw [List.mem_singleton.mp new]
      exact ⟨operation, rfl⟩
  · intro entry inside
    rcases List.mem_append.mp inside with old | new
    · exact Nat.le_succ_of_le (room.issued entry old)
    · obtain rfl := List.mem_singleton.mp new
      exact Nat.le_refl (last + 1)
  · rw [List.map_append, List.nodup_append]
    refine ⟨room.distinct, by simp, ?_⟩
    intro m old n new
    obtain ⟨entry, inside, rfl⟩ := List.mem_map.mp old
    have number := room.issued entry inside
    rw [List.mem_singleton.mp new]
    exact Nat.ne_of_lt (Nat.lt_succ_of_le number)
  · have room := length_makeRoom h.bounded
    rw [List.length_append, List.length_singleton]
    omega

/-- Counting a poll of a job changes neither ids nor numbers. -/
theorem update (h : JobTable jobs last) {id : String} {job : Job}
    (known : jobs.lookup id = some job) (polls : Nat) :
    JobTable (jobs.map fun j => if j.1 = id then (id, { job with polls }) else j) last := by
  have member := mem_of_lookup known
  -- Every entry with this id is the job itself, so its number stays.
  have sequences : (jobs.map fun j => if j.1 = id then (id, { job with polls }) else j).map
      (·.2.sequence) = jobs.map (·.2.sequence) := by
    rw [List.map_map]
    refine List.map_congr_left fun entry inside => ?_
    simp only [Function.comp]
    split
    · next same => exact (h.sequence_eq inside member same).symm
    · rfl
  constructor
  · intro entry inside
    obtain ⟨old, oldInside, rfl⟩ := List.mem_map.mp inside
    split
    · exact h.keyed (id, job) member
    · exact h.keyed old oldInside
  · intro entry inside
    obtain ⟨old, oldInside, rfl⟩ := List.mem_map.mp inside
    split
    · exact h.issued (id, job) member
    · exact h.issued old oldInside
  · rw [sequences]
    exact h.distinct
  · rw [List.length_map]
    exact h.bounded

/-- A poll keeps a table well-formed. -/
theorem poll {s : Cluster} (h : JobTable s.jobs last) (id : String) :
    JobTable (s.poll id).2.jobs last := by
  unfold Cluster.poll
  split
  · exact h
  · next job known =>
    simp only
    split
    · exact h.sublist List.filter_sublist
    · exact h.update known _

end JobTable

/-- Every step keeps the table of jobs well-formed. -/
theorem jobTable_take {s : Cluster} (h : JobTable s.jobs s.nextRequest) (step : Step) :
    JobTable (s.take step).jobs (s.take step).nextRequest := by
  change JobTable (s.take step).desk.2.1 (s.take step).desk.2.2
  cases jobStep_take s step with
  | idle queued polled desk =>
    rw [desk]
    exact h
  | queue operation result queued polled desk =>
    rw [desk]
    exact h.queue operation result
  | poll id queued polled desk =>
    rw [desk]
    exact h.poll id

/-- **The table of jobs is well-formed in every cluster that is reached.** -/
theorem Reachable.jobTable {s : Cluster} (h : Reachable s) : JobTable s.jobs s.nextRequest :=
  h.invariant (P := fun s => JobTable s.jobs s.nextRequest) (fun _ => JobTable.empty)
    fun _ step known => jobTable_take known step

end Cluster

end ClusterBackup.Simulated
