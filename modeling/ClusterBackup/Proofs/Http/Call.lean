/-
ClusterBackup.Proofs.Http.Call — what a call sends, and how its answer is
read.

A call over HTTP is settled without the cluster, or it is one request and a
reading of the body that comes back. `plan` says which of the two a call is
and `answer_eq` that this is all there is to it, so whatever is asked of
every call (which URL, which error, what an answer was read off) is asked
of plans, and the calls differ in their plans only.
-/
import ClusterBackup.Http.Client

namespace ClusterBackup.Http

/-- What a call comes to. -/
inductive Plan (α : Type) where
  /-- It is settled without a request. -/
  | settled (answer : Except Error α)
  /-- One request is sent, `nextId` is the number after it, and the body of the answer is read. -/
  | posted (url : String) (params : Params) (nextId : Nat) (read : Json → Except Error α)

namespace Plan

variable {α : Type} {ν : Type}

/-- The URL that is asked for. -/
def url? : Plan α → Option Url
  | settled _ => none
  | posted url params _ _ => requestUrl? url params

/-- Sends the request, if there is one, and reads the body of the answer. -/
def carryOut (t : Transport ν) : Plan α → State ν → Except Error α × State ν
  | settled answer, s => (answer, s)
  | posted url params nextId read, s =>
    ((send t url params { s with nextId }).1.bind read, (send t url params { s with nextId }).2)

end Plan

/-- The plan of a backup or a restore. -/
def runPlan (c : Config) (env : Surroundings) (number : Nat) (operation : Operation)
    (r : SnapshotRequest) : Plan AdminResponse :=
  match snapshotParams c env operation r with
  | .error e => .settled (.error e)
  | .ok params => .posted (adminUrl c) params number AdminResponse.ofBody?

/-- The plan of a backup or a restore that is to be queued. -/
def submitPlan (c : Config) (env : Surroundings) (number : Nat) (operation : Operation)
    (r : SnapshotRequest) : Plan Submission :=
  match snapshotParams c env operation r with
  | .error e => .settled (.error e)
  | .ok params =>
    let id := jobId operation r.collection env.now number
    .posted (adminUrl c) (params ++ [("async", id)]) (number + 1) (submissionOf id)

/-- The plan of a call; `number` is the next one for an id. -/
def plan (c : Config) (env : Surroundings) (number : Nat) : (call : AdminCall) → Plan call.Answer
  | .prepareRestore r =>
    .settled ((backupName c env .restore r).map fun name => { r with backupName := some name })
  | .collectionExists collection =>
    .posted (adminUrl c) [("action", "LIST")] number (listHas collection)
  | .delete collection =>
    .posted (adminUrl c) [("action", "DELETE"), ("name", collection.name)] number
      AdminResponse.ofBody?
  | .backup r => runPlan c env number .backup r
  | .submitBackup r => submitPlan c env number .backup r
  | .restore r => runPlan c env number .restore r
  | .submitRestore r => submitPlan c env number .restore r
  | .optimize collection =>
    .posted (updateUrl c collection) [("optimize", "true"), ("waitSearcher", "true")] number
      AdminResponse.ofBody?
  | .queryStatus requestId =>
    .posted (adminUrl c) [("action", "REQUESTSTATUS"), ("requestid", requestId)] number
      RawJobStatus.ofBody?

section

variable {ν : Type} (c : Config) (env : Surroundings) (t : Transport ν)

/-- What sends a request and reads the body of the answer carries a plan out. -/
theorem Plan.eq_carryOut_posted {α : Type} {url : String} {params : Params} {nextId : Nat}
    {read : Json → Except Error α} {s : State ν} {answer : Except Error α × State ν}
    (made : answer =
      (let (body, s) := send t url params { s with nextId }; (body.bind read, s))) :
    answer = (Plan.posted url params nextId read).carryOut t s := by
  rw [made, carryOut]

theorem runSnapshot_eq (operation : Operation) (r : SnapshotRequest) (s : State ν) :
    runSnapshot c env t operation r s = (runPlan c env s.nextId operation r).carryOut t s := by
  unfold runPlan
  cases found : snapshotParams c env operation r with
  | error e => rw [runSnapshot, found, Plan.carryOut]
  | ok params => exact Plan.eq_carryOut_posted t (by rw [runSnapshot, found])

theorem submitSnapshot_eq (operation : Operation) (r : SnapshotRequest) (s : State ν) :
    submitSnapshot c env t operation r s = (submitPlan c env s.nextId operation r).carryOut t s := by
  unfold submitPlan
  cases found : snapshotParams c env operation r with
  | error e => rw [submitSnapshot, found, Plan.carryOut]
  | ok params => exact Plan.eq_carryOut_posted t (by rw [submitSnapshot, found])

/-- Every call is answered by its plan. -/
theorem answer_eq (call : AdminCall) (s : State ν) :
    answer c env t call s = (plan c env s.nextId call).carryOut t s := by
  cases call with
  | prepareRestore r => rw [answer, plan, Plan.carryOut]
  | collectionExists collection => exact Plan.eq_carryOut_posted t (by rw [answer])
  | delete collection => exact Plan.eq_carryOut_posted t (by rw [answer])
  | backup r => rw [answer, plan, runSnapshot_eq]
  | submitBackup r => rw [answer, plan, submitSnapshot_eq]
  | restore r => rw [answer, plan, runSnapshot_eq]
  | submitRestore r => rw [answer, plan, submitSnapshot_eq]
  | optimize collection => exact Plan.eq_carryOut_posted t (by rw [answer])
  | queryStatus requestId => exact Plan.eq_carryOut_posted t (by rw [answer])

/-- The URL that a call asks for, if it asks for one. -/
def asked? (number : Nat) (call : AdminCall) : Option Url := (plan c env number call).url?

end

/-! ## Sending -/

section

variable {α ν : Type} {t : Transport ν} {url : String} {params : Params} {s : State ν}

/-- The network answers a URL with a body in JSON. -/
def Transport.Gives (t : Transport ν) (network : ν) (u : Url) (body : Json) : Prop :=
  ∃ r, (t u network).1 = .ok r ∧ bodyOf r = .ok body

/-- A body comes back exactly if the network gives it for the URL. -/
theorem send_eq_ok_iff {body : Json} :
    (send t url params s).1 = .ok body ↔
      ∃ u, requestUrl? url params = some u ∧ t.Gives s.network u body := by
  unfold send Transport.Gives
  cases requestUrl? url params with
  | none => simp
  | some u =>
    simp only [Option.some.injEq, exists_eq_left']
    cases (t u s.network).1 with
    | error reason => simp
    | ok r => simp

/-- The answer of the network is what the answer to a call is read off. -/
theorem Plan.carryOut_posted_of_received {nextId : Nat} {read : Json → Except Error α} {u : Url}
    {r : Response} (asked : (Plan.posted url params nextId read).url? = some u)
    (received : (t u s.network).1 = .ok r) :
    ((Plan.posted url params nextId read).carryOut t s).1 = (bodyOf r).bind read := by
  have sent : (send t url params { s with nextId }).1 = bodyOf r := by
    rw [url?] at asked
    rw [send, asked]
    simp only [received]
  rw [carryOut, sent]

/-- The body that the network gives is what the answer is read off. -/
theorem Plan.carryOut_posted_of_gives {nextId : Nat} {read : Json → Except Error α} {u : Url}
    {body : Json} (asked : (Plan.posted url params nextId read).url? = some u)
    (gives : t.Gives s.network u body) :
    ((Plan.posted url params nextId read).carryOut t s).1 = read body := by
  obtain ⟨r, received, parsed⟩ := gives
  rw [carryOut_posted_of_received asked received, parsed]
  rfl

/-- An answer that is no error was read off a body that the network gave. -/
theorem Plan.gives_of_carryOut_posted {nextId : Nat} {read : Json → Except Error α} {a : α}
    (answered : ((Plan.posted url params nextId read).carryOut t s).1 = .ok a) :
    ∃ u body, requestUrl? url params = some u ∧ t.Gives s.network u body ∧ read body = .ok a := by
  rw [carryOut] at answered
  cases sent : (send t url params { s with nextId }).1 with
  | error e =>
    rw [sent] at answered
    cases answered
  | ok body =>
    rw [sent] at answered
    obtain ⟨u, asked, gives⟩ := send_eq_ok_iff.mp sent
    exact ⟨u, body, asked, gives, answered⟩

/-- A job is rejected with the response that refuses it. -/
theorem submissionOf_of_failure {r : AdminResponse} {body : Json} (own : String)
    (read : AdminResponse.ofBody? body = .ok r) (failure : r.isSuccess = false) :
    submissionOf own body = .ok (.rejected r) := by
  rw [submissionOf, read]
  simp [bind, Except.bind, failure]
  rfl

/-- A job is accepted under the id that the body names, or else under the client's own. -/
theorem submissionOf_of_success {r : AdminResponse} {body : Json} (own : String)
    (read : AdminResponse.ofBody? body = .ok r) (success : r.isSuccess = true) :
    submissionOf own body =
      .ok (.accepted (((body.get? "requestid").bind Json.asString?).getD own)) := by
  rw [submissionOf, read]
  simp [bind, Except.bind, success]
  rfl

/-- A backup or a restore that is carried out is answered with what came back. -/
theorem carryOut_runPlan_of_received {c : Config} {env : Surroundings} {number : Nat}
    {operation : Operation} {q : SnapshotRequest} {u : Url} {r : Response}
    (asked : (runPlan c env number operation q).url? = some u)
    (received : (t u s.network).1 = .ok r) :
    ((runPlan c env number operation q).carryOut t s).1 =
      (bodyOf r).bind AdminResponse.ofBody? := by
  unfold runPlan at asked ⊢
  cases found : snapshotParams c env operation q with
  | error e =>
    rw [found] at asked
    cases asked
  | ok params =>
    rw [found] at asked
    exact Plan.carryOut_posted_of_received asked received

/-- A backup or a restore that is carried out is answered with the response in the body. -/
theorem carryOut_runPlan_of_gives {c : Config} {env : Surroundings} {number : Nat}
    {operation : Operation} {r : SnapshotRequest} {u : Url} {body : Json}
    (asked : (runPlan c env number operation r).url? = some u) (gives : t.Gives s.network u body) :
    ((runPlan c env number operation r).carryOut t s).1 = AdminResponse.ofBody? body := by
  obtain ⟨r, received, parsed⟩ := gives
  rw [carryOut_runPlan_of_received asked received, parsed]
  rfl

/-- A backup or a restore that is queued is answered with what the body says of the job. -/
theorem carryOut_submitPlan_of_gives {c : Config} {env : Surroundings} {number : Nat}
    {operation : Operation} {r : SnapshotRequest} {u : Url} {body : Json}
    (asked : (submitPlan c env number operation r).url? = some u)
    (gives : t.Gives s.network u body) :
    ((submitPlan c env number operation r).carryOut t s).1 =
      submissionOf (jobId operation r.collection env.now number) body := by
  unfold submitPlan at asked ⊢
  cases found : snapshotParams c env operation r with
  | error e =>
    rw [found] at asked
    cases asked
  | ok params =>
    rw [found] at asked
    exact Plan.carryOut_posted_of_gives asked gives

end

end ClusterBackup.Http
