/-
ClusterBackup.Proofs.Rest.Conservation — the counters of a service and the
outcomes of its jobs.

A `Service` is what is left after some visits: the cluster, the counters,
and the outcomes that the jobs of those visits came to. The service does
not keep the outcomes itself; they are written down beside it, by running
each job on the cluster as its visit found it. Visits are requests of any
kind and looks at the counters, in any order.

`tallied_after` is the invariant: the counters are the census of the
outcomes. A request for a job adds its outcome to both, and everything else
leaves both as they are.
-/
import ClusterBackup.Proofs.Metrics
import ClusterBackup.Proofs.Outcome.WellFormed
import ClusterBackup.Proofs.Rest.Jobs

namespace ClusterBackup.Rest

/-- The status that goes with the result under which an outcome is counted. -/
def statusOfResult (result : String) : Nat :=
  if result = "success" then 200
  else if result = "precondition-failed" then 409
  else if result = "invalid-argument" then 400
  else 502

/-- Status and result of an outcome agree. -/
theorem statusOf_eq_of_countsAs {o : Outcome} {result : String} (counts : o.countsAs result = true) :
    statusOf o = statusOfResult result := by
  unfold Outcome.countsAs at counts
  unfold statusOf
  split at counts
  · next success => rw [if_pos success, beq_iff_eq.mp counts, statusOfResult, if_pos rfl]
  · next failure =>
    rw [if_neg failure]
    cases kind : o.kind with
    | none => simp [kind] at counts
    | some k =>
      rw [kind, Option.any_some, beq_iff_eq] at counts
      rw [← counts]
      cases k <;> rfl

/-- What can happen to a service: a request, or a look at its counters from within. -/
inductive Visit where
  | request (r : Request)
  | text
  | count (operation : Operation) (result : String)

/-- The job that a visit asks for. -/
def Visit.job? : Visit → Option (Operation × Entry)
  | request r => r.job?
  | text | count .. => none

/-- A service after some visits, with the outcomes of the jobs that these asked for. -/
structure Service (σ : Type) where
  cluster : σ
  metrics : Metrics
  produced : List (Operation × Outcome)

namespace Service

variable {σ : Type} (client : Client σ)

/-- A service that nobody has visited. -/
def start (s : σ) : Service σ := ⟨s, {}, []⟩

/-- The outcome that a job comes to on the cluster as it is. -/
def outcomeOf (v : Service σ) (entry : Entry) : Outcome :=
  (entry.workflow.run client v.cluster).result

/-- The outcome that a visit produces. -/
def produces? (v : Service σ) (visit : Visit) : Option (Operation × Outcome) :=
  visit.job?.map fun job => (job.1, v.outcomeOf client job.2)

/-- The reply to a request. -/
def replyTo (v : Service σ) (r : Request) : Reply :=
  ((handle v.metrics r).run client v.cluster).result.1

/-- The service after a visit. -/
def take (v : Service σ) (visit : Visit) : Service σ :=
  let produced := v.produced ++ (v.produces? client visit).toList
  match visit with
  | .request r =>
    let run := (handle v.metrics r).run client v.cluster
    ⟨run.state, run.result.2, produced⟩
  | .text => ⟨v.cluster, v.metrics, produced⟩
  | .count operation result => ⟨v.cluster, (v.metrics.operationCount operation result).2, produced⟩

/-- The service after visits. -/
def after (v : Service σ) (visits : List Visit) : Service σ := visits.foldl (take client) v

/-- The counters of a service agree with the outcomes that it produced. -/
structure Conserved (v : Service σ) : Prop where
  /-- The count of an operation and a result is the number of outcomes of this kind. -/
  operations : ∀ operation result, (v.metrics.operationCount operation result).1 =
    v.produced.countP fun p => p.1 == operation && p.2.countsAs result
  /-- The count of a state is the number of outcomes that found a job in it. -/
  statusQueries : ∀ state : JobState, v.metrics.statusQueries.count [state.label] =
    v.produced.countP fun p => p.2.jobStatus.any (·.state == state)
  /-- Every outcome is counted once. -/
  total : v.metrics.operations.total = v.produced.length
  /-- What asks for no job, be it refused or a look at the counters, changes no count, and does not
  reach the cluster. -/
  idle : ∀ visit : Visit, visit.job? = none →
    (v.take client visit).cluster = v.cluster ∧ (v.take client visit).produced = v.produced ∧
      (∀ labels, (v.take client visit).metrics.operations.count labels =
        v.metrics.operations.count labels) ∧
      (v.take client visit).metrics.statusQueries = v.metrics.statusQueries
  /-- What asks for a job is answered with the status that goes with the result under which its
  outcome is counted. -/
  status : ∀ (r : Request) (operation : Operation) (entry : Entry),
    r.job? = some (operation, entry) →
      (v.take client (.request r)).produced =
        v.produced ++ [(operation, v.outcomeOf client entry)] ∧
      ∀ result, (v.outcomeOf client entry).countsAs result = true →
        (v.replyTo client r).status = statusOfResult result

/-! ## One visit -/

/-- Every outcome of an entry is a success or has a kind. -/
theorem known_outcome (v : Service σ) (entry : Entry) :
    (v.outcomeOf client entry).success = true ∨ (v.outcomeOf client entry).kind ≠ none := by
  have wellFormed := (entry.course client v.cluster).settles.wellFormed
  by_cases kind : (v.outcomeOf client entry).kind = none
  · exact .inl (wellFormed.success_iff.mpr kind)
  · exact .inr kind

/-- A request for a job adds its outcome to the counters and to what was produced. -/
theorem take_of_job {r : Request} {operation : Operation} {entry : Entry}
    (job : r.job? = some (operation, entry)) (v : Service σ) :
    v.take client (.request r) =
      ⟨(entry.workflow.run client v.cluster).state,
        v.metrics.record operation (v.outcomeOf client entry),
        v.produced ++ [(operation, v.outcomeOf client entry)]⟩ := by
  obtain ⟨result, state⟩ := run_of_job (m := v.metrics) client job v.cluster
  simp only [take, result, state, produces?, Visit.job?, job, Option.map_some, Option.toList_some]
  rfl

/-- A request for no job changes nothing. -/
theorem take_of_no_job {r : Request} (job : r.job? = none) (v : Service σ) :
    v.take client (.request r) = v := by
  obtain ⟨metrics, state⟩ := run_of_no_job (m := v.metrics) client job v.cluster
  simp only [take, metrics, state, produces?, Visit.job?, job, Option.map_none, Option.toList_none,
    List.append_nil]

theorem take_text (v : Service σ) : v.take client .text = v := by
  simp [take, produces?, Visit.job?]

theorem take_count (v : Service σ) (operation : Operation) (result : String) :
    v.take client (.count operation result) =
      { v with metrics := (v.metrics.operationCount operation result).2 } := by
  simp [take, produces?, Visit.job?]

/-- Every visit keeps the counters a census of what was produced. -/
theorem tallied_take {v : Service σ} (h : v.metrics.Tallied v.produced) (visit : Visit) :
    (v.take client visit).metrics.Tallied (v.take client visit).produced := by
  cases visit with
  | request r =>
    cases job : r.job? with
    | none =>
      rw [take_of_no_job client job]
      exact h
    | some found =>
      rw [take_of_job client job]
      exact h.record found.1 (v.known_outcome client found.2)
  | text =>
    rw [take_text]
    exact h
  | count operation result =>
    rw [take_count]
    exact h.operationCount operation result

/-- What asks for no job changes neither the cluster nor a count. -/
theorem idle_take {v : Service σ} (h : v.metrics.Tallied v.produced) {visit : Visit}
    (job : visit.job? = none) :
    (v.take client visit).cluster = v.cluster ∧ (v.take client visit).produced = v.produced ∧
      (∀ labels, (v.take client visit).metrics.operations.count labels =
        v.metrics.operations.count labels) ∧
      (v.take client visit).metrics.statusQueries = v.metrics.statusQueries := by
  cases visit with
  | request r =>
    rw [take_of_no_job client job]
    exact ⟨rfl, rfl, fun _ => rfl, rfl⟩
  | text =>
    rw [take_text]
    exact ⟨rfl, rfl, fun _ => rfl, rfl⟩
  | count operation result =>
    rw [take_count]
    refine ⟨rfl, rfl, fun labels => ?_, rfl⟩
    rw [Metrics.operationCount, Counter.count_add h.sorted, ite_self, Nat.add_zero]

/-! ## All visits -/

/-- The counters are a census of what was produced, whatever the visits were. -/
theorem tallied_after {v : Service σ} (h : v.metrics.Tallied v.produced) (visits : List Visit) :
    (v.after client visits).metrics.Tallied (v.after client visits).produced := by
  induction visits generalizing v with
  | nil => exact h
  | cons visit visits ih => exact ih (tallied_take client h visit)

/-- **The counters of a service count its outcomes**, whatever the cluster answers, and after any
requests and any looks at the counters: each outcome once, under its operation and its result, and
under the state that it found if it did. What was refused, and every look, leaves all counts as they
are, and the status of every outcome goes with the result under which it is counted. -/
theorem counters_conserve_outcomes (s : σ) (visits : List Visit) :
    ((start s).after client visits).Conserved client := by
  have tallied := tallied_after client (v := start s) Metrics.tallied_nil visits
  generalize (start s).after client visits = v at tallied
  exact {
    operations := tallied.operations
    statusQueries := tallied.statusQueries
    total := tallied.total
    idle := fun visit job => idle_take client tallied job
    status := fun r operation entry job => by
      refine ⟨by rw [take_of_job client job], fun result counts => ?_⟩
      rw [replyTo, (run_of_job client job v.cluster).1, Request.status_replyTo]
      exact statusOf_eq_of_countsAs counts }

end Service

end ClusterBackup.Rest
