/-
ClusterBackup.Proofs.Rest.Jobs — what a request to the service comes down
to.

A request either asks for a job, which is one entry into a workflow under
one operation, or it is answered without the cluster: it is refused, or
asks for the health or the metrics. `Request.job?` tells which, and
`handle_of_job` and `handle_of_no_job` say that handling the request is
nothing else. Whatever is proved of requests goes through these two.
-/
import ClusterBackup.Proofs.Entry
import ClusterBackup.Rest

namespace ClusterBackup.Rest

/-- The operation and the entry that a route stands for, if the request can be read. -/
def Route.job? (r : Request) : Route → Option (Operation × Entry)
  | .backups =>
    match readBody JobRequest.read r with
    | .ok q => some (.backup, .runBackup q)
    | .error _ => none
  | .restores =>
    match readBody JobRequest.read r with
    | .ok q => some (.restore, .runRestore q)
    | .error _ => none
  | .request id =>
    match Url.Percent.decode? id.toList, operationOf? (queryOf r.target) with
    | some id, some operation => some (operation, .status operation (String.ofList id))
    | _, _ => none
  | .health | .metrics => none

/-- The job that a request asks for: the operation under which its outcome is counted, and the
entry. None if the request is refused or asks for no job. -/
def Request.job? (r : Request) : Option (Operation × Entry) :=
  match Route.ofPath? (pathOf r.target) with
  | none => none
  | some route => if route.allows r.method then route.job? r else none

/-- The reply to a request whose job came to an outcome. -/
def Request.replyTo (r : Request) (o : Outcome) : Reply :=
  if r.method = "HEAD" then (Reply.ofOutcome o).headOnly else .ofOutcome o

@[simp] theorem Request.status_replyTo (r : Request) (o : Outcome) :
    (r.replyTo o).status = statusOf o := by
  unfold replyTo
  split <;> rfl

variable {m : Metrics} {r : Request}

/-- A route that stands for a job is answered with its outcome, which is counted. -/
theorem serve_of_job {route : Route} {operation : Operation} {entry : Entry}
    (job : route.job? r = some (operation, entry)) :
    serve m r route = answered m operation entry.workflow := by
  cases route with
  | backups | restores =>
    simp only [Route.job?] at job
    split at job
    · next q read =>
      cases job
      rw [serve, read]
      rfl
    · cases job
  | request id =>
    simp only [Route.job?] at job
    rw [serve]
    split at job
    · next cs op decoded named =>
      cases job
      rw [decoded, named]
      cases operation <;> rfl
    · cases job
  | health => cases job
  | metrics => cases job

/-- A route that stands for no job is answered at once, and nothing is counted. -/
theorem serve_of_no_job {route : Route} (job : route.job? r = none) :
    ∃ reply, serve m r route = .done (reply, m) := by
  cases route with
  | backups =>
    simp only [Route.job?] at job
    cases read : readBody (JobRequest.read (S := BackupSpec)) r with
    | ok q => simp [read] at job
    | error status => exact ⟨.refused status, by rw [serve, read]; rfl⟩
  | restores =>
    simp only [Route.job?] at job
    cases read : readBody (JobRequest.read (S := RestoreSpec)) r with
    | ok q => simp [read] at job
    | error status => exact ⟨.refused status, by rw [serve, read]; rfl⟩
  | request id =>
    simp only [Route.job?] at job
    rw [serve]
    split
    · next decoded named => simp [decoded, named] at job
    · next decoded named => simp [decoded, named] at job
    · exact ⟨_, rfl⟩
  | health => exact ⟨_, rfl⟩
  | metrics => exact ⟨_, rfl⟩

/-- A request whose route answers it is handled by that route. -/
theorem handle_of_route {route : Route} (path : Route.ofPath? (pathOf r.target) = some route)
    (allowed : route.allows r.method = true) :
    handle m r = (serve m r route).bind fun answer =>
      .done (if r.method = "HEAD" then answer.1.headOnly else answer.1, answer.2) := by
  rw [handle, path]
  simp only [allowed, if_true]
  rfl

/-- A request whose route answers it asks for the job of the route. -/
theorem job?_of_route {route : Route} (path : Route.ofPath? (pathOf r.target) = some route)
    (allowed : route.allows r.method = true) : r.job? = route.job? r := by
  rw [Request.job?, path]
  simp only [allowed, if_true]

/-- A request that no route answers is refused. -/
theorem handle_of_refused (unanswered : ∀ route, Route.ofPath? (pathOf r.target) = some route →
    route.allows r.method = false) :
    r.job? = none ∧ ∃ status, handle m r = .done (.refused status, m) := by
  rw [Request.job?, handle]
  cases path : Route.ofPath? (pathOf r.target) with
  | none => exact ⟨rfl, 404, rfl⟩
  | some route =>
    simp only [unanswered route path, Bool.false_eq_true, if_false]
    exact ⟨trivial, 405, rfl⟩

/-- Either a route answers a request, or none does. -/
theorem answered_or_refused (r : Request) :
    (∃ route, Route.ofPath? (pathOf r.target) = some route ∧ route.allows r.method = true) ∨
      ∀ route, Route.ofPath? (pathOf r.target) = some route → route.allows r.method = false := by
  by_cases answered : ∃ route, Route.ofPath? (pathOf r.target) = some route ∧
      route.allows r.method = true
  · exact .inl answered
  · refine .inr fun route path => ?_
    rw [Bool.eq_false_iff]
    exact fun allowed => answered ⟨route, path, allowed⟩

/-- **A request for a job is the job**: its entry is taken, and the outcome is answered and
counted. -/
theorem handle_of_job {operation : Operation} {entry : Entry}
    (job : r.job? = some (operation, entry)) :
    handle m r = entry.workflow.bind fun o => .done (r.replyTo o, m.record operation o) := by
  rcases answered_or_refused r with ⟨route, path, allowed⟩ | unanswered
  · rw [job?_of_route path allowed] at job
    rw [handle_of_route path allowed, serve_of_job job, answered, Workflow.bind_eq,
      Workflow.bind_assoc]
    rfl
  · rw [(handle_of_refused (m := m) unanswered).1] at job
    cases job

/-- A request for no job is answered at once, and nothing is counted. -/
theorem handle_of_no_job (job : r.job? = none) : ∃ reply, handle m r = .done (reply, m) := by
  rcases answered_or_refused r with ⟨route, path, allowed⟩ | unanswered
  · rw [job?_of_route path allowed] at job
    obtain ⟨reply, served⟩ := serve_of_no_job (m := m) job
    rw [handle_of_route path allowed, served]
    exact ⟨_, rfl⟩
  · obtain ⟨-, status, refused⟩ := handle_of_refused (m := m) unanswered
    exact ⟨.refused status, refused⟩

variable {σ : Type} (client : Client σ)

/-- What becomes of the client, the reply and the counters when a request for a job is handled. -/
theorem run_of_job {operation : Operation} {entry : Entry}
    (job : r.job? = some (operation, entry)) (s : σ) :
    let run := entry.workflow.run client s
    ((handle m r).run client s).result = (r.replyTo run.result, m.record operation run.result) ∧
      ((handle m r).run client s).state = run.state := by
  rw [handle_of_job job, Workflow.run_bind]
  exact ⟨rfl, rfl⟩

/-- A request for no job leaves the client and the counters alone. -/
theorem run_of_no_job (job : r.job? = none) (s : σ) :
    ((handle m r).run client s).result.2 = m ∧ ((handle m r).run client s).state = s := by
  obtain ⟨reply, handled⟩ := handle_of_no_job (m := m) job
  rw [handled]
  exact ⟨rfl, rfl⟩

end ClusterBackup.Rest
