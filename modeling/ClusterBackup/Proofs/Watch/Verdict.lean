/-
ClusterBackup.Proofs.Watch.Verdict — a wait for a job comes to what its
polls found.

`Course` says how a wait goes: findings that leave the end of the job open
are followed by another poll while there is time, and the first that
decides is what the wait comes to. The program itself learns only the last
setback from its repeated polls; `conclude_attempt` shows that this is
enough to tell a cluster out of reach when time was up from an error that
lasts. `Course.eq_concat` takes all findings but the last one together,
`Ends` says what the last one makes of the wait, and the fields of
`FollowsPolls` are read off the two.
-/
import ClusterBackup.Proofs.Watch.Retry
import ClusterBackup.Simulated.Client
import ClusterBackup.Http.Client

namespace ClusterBackup.Watch

/-! ## What polls find -/

/-- What an exchange finds out about a job, if it is a poll. -/
def finding? : Exchange → Option (Except Error JobStatus)
  | ⟨.queryStatus id, answer⟩ => some (answer.bind (JobStatus.ofRaw? id))
  | _ => none

/-- What the polls of a transcript find, one after another. -/
def findings (t : List Exchange) : List (Except Error JobStatus) := t.filterMap finding?

/-- A finding that does not end a wait: the job goes on, or the cluster is out of reach for now. -/
def isOpen : Except Error JobStatus → Bool
  | .ok s => !s.state.isTerminal
  | .error e => e.isTransient

/-- A finding that tells how the job ended. -/
def isFinal : Except Error JobStatus → Bool
  | .ok s => s.state.isTerminal
  | .error _ => false

theorem isFinal_of_isOpen {f : Except Error JobStatus} (undecided : isOpen f = true) :
    isFinal f = false := by
  cases f with
  | ok s => simpa [isOpen, isFinal] using undecided
  | error e => rfl

/-- The request that is named when time is up after a finding. -/
def waitedFor (requestId : String) : Except Error JobStatus → String
  | .ok s => s.requestId
  | .error _ => requestId

theorem findings_polls (id : String) (answers : List (Except Error RawJobStatus)) :
    findings (answers.map (⟨.queryStatus id, ·⟩)) =
      answers.map fun answer => answer.bind (JobStatus.ofRaw? id) := by
  induction answers with
  | nil => rfl
  | cons answer rest ih =>
    rw [List.map_cons, List.map_cons, ← ih]
    rfl

/-- A poll is one call, unless there is nothing left of the request id. -/
theorem poll_eq {requestId : String} (given : Text.trim requestId ≠ "") :
    poll requestId = .ask (.queryStatus (Text.trim requestId)) fun answer =>
      .done (attempt (answer.bind (JobStatus.ofRaw? (Text.trim requestId)))) := by
  simp only [poll, JobStatus.fetch, if_neg given, Workflow.bind_eq, Workflow.call,
    Workflow.ask_bind, Workflow.done_bind]
  congr 1
  funext answer
  cases answer with
  | ok raw => rfl
  | error e => rfl

/-! ## Courses of a wait -/

/-- What a wait comes to with what its last poll, that with number `n`, found. -/
inductive Ends (w : Watch) (clock : Stopwatch) (requestId : String) (n : Nat)
    (f : Except Error JobStatus) : Except Error JobStatus → Prop where
  | decided (decisive : isOpen f = false) : Ends w clock requestId n f f
  | late (undecided : isOpen f = true) (noTime : w.hasTimeAfter (clock.after n) = false) :
      Ends w clock requestId n f
        (.error (.timeout (waitedFor requestId f) (Stopwatch.text (clock.after n))))

/-- How a wait goes from the poll with number `n` on: what the polls find one by one, and what the
wait comes to. -/
inductive Course (w : Watch) (clock : Stopwatch) (requestId : String) :
    Nat → List (Except Error JobStatus) → Except Error JobStatus → Prop where
  | last {n : Nat} {f result : Except Error JobStatus} (ends : Ends w clock requestId n f result) :
      Course w clock requestId n [f] result
  | again {n : Nat} {f : Except Error JobStatus} (undecided : isOpen f = true)
      (inTime : w.hasTimeAfter (clock.after n) = true) {fs : List (Except Error JobStatus)}
      {result : Except Error JobStatus} (rest : Course w clock requestId (n + 1) fs result) :
      Course w clock requestId n (f :: fs) result

/-- The conclusion of a wait recovers from the last setback why there were no more polls. -/
theorem conclude_attempt (requestId elapsed : String) (f : Except Error JobStatus) :
    match attempt f with
    | .ok s => isOpen f = false ∧ conclude requestId elapsed (.ok s) = f
    | .error (.permanent p) => isOpen f = false ∧ conclude requestId elapsed (.error p) = f
    | .error (.transient p) => isOpen f = true ∧
        conclude requestId elapsed (.error p) = .error (.timeout (waitedFor requestId f) elapsed) := by
  cases f with
  | ok s => cases ended : s.state.isTerminal <;> simp [attempt, isOpen, conclude, waitedFor, ended]
  | error e => cases passing : e.isTransient <;> simp [attempt, isOpen, conclude, waitedFor, passing]

/-- A wait goes as its polls are repeated. -/
theorem Course.of_retried {w : Watch} {clock : Stopwatch} {requestId : String} {n elapsed : Nat}
    {fs : List (Except Error JobStatus)} {result : Except Pending JobStatus}
    (h : Retried w clock n (fs.map attempt) result elapsed) :
    Course w clock requestId n fs (conclude requestId (Stopwatch.text elapsed) result) := by
  generalize outcomes : fs.map attempt = os at h
  induction h generalizing fs with
  | @succeeded n s =>
    obtain ⟨f, rfl, found⟩ := List.map_eq_singleton_iff.mp outcomes
    have verdict := conclude_attempt requestId (Stopwatch.text (clock.after n)) f
    rw [found] at verdict
    rw [verdict.2]
    exact .last (.decided verdict.1)
  | @refused n p =>
    obtain ⟨f, rfl, found⟩ := List.map_eq_singleton_iff.mp outcomes
    have verdict := conclude_attempt requestId (Stopwatch.text (clock.after n)) f
    rw [found] at verdict
    rw [verdict.2]
    exact .last (.decided verdict.1)
  | @late n p noTime =>
    obtain ⟨f, rfl, found⟩ := List.map_eq_singleton_iff.mp outcomes
    have verdict := conclude_attempt requestId (Stopwatch.text (clock.after n)) f
    rw [found] at verdict
    rw [verdict.2]
    exact .last (.late verdict.1 noTime)
  | @again n p inTime os result elapsed rest ih =>
    obtain ⟨f, fs, rfl, found, others⟩ := List.map_eq_cons_iff.mp outcomes
    have verdict := conclude_attempt requestId (Stopwatch.text elapsed) f
    rw [found] at verdict
    exact .again verdict.1 inTime (ih others)

/-- All findings of a course but the last are open and come in time, and the wait ends with the
last one. -/
theorem Course.eq_concat {w : Watch} {clock : Stopwatch} {requestId : String} {n : Nat}
    {fs : List (Except Error JobStatus)} {result : Except Error JobStatus}
    (h : Course w clock requestId n fs result) :
    ∃ earlier last, fs = earlier ++ [last] ∧ (∀ f ∈ earlier, isOpen f = true) ∧
      (∀ k < earlier.length, w.hasTimeAfter (clock.after (n + k)) = true) ∧
      Ends w clock requestId (n + earlier.length) last result := by
  induction h with
  | @last n f result ends => exact ⟨[], f, rfl, nofun, nofun, ends⟩
  | @again n f undecided inTime fs result rest ih =>
    obtain ⟨earlier, last, rfl, allOpen, allInTime, ends⟩ := ih
    refine ⟨f :: earlier, last, rfl, ?_, ?_, ?_⟩
    · exact List.forall_mem_cons.mpr ⟨undecided, allOpen⟩
    · intro k before
      cases k with
      | zero => exact inTime
      | succ k =>
        rw [← Nat.add_assoc, Nat.add_right_comm]
        exact allInTime k (Nat.lt_of_succ_lt_succ before)
    · rw [List.length_cons, ← Nat.add_assoc, Nat.add_right_comm]
      exact ends

/-! ## Ends of a wait -/

section

variable {w : Watch} {clock : Stopwatch} {requestId : String} {n : Nat}
  {f result : Except Error JobStatus}

/-- A wait comes to a status if the last poll found it, and found the job ended. -/
theorem Ends.ok_iff (h : Ends w clock requestId n f result) (status : JobStatus) :
    result = .ok status ↔ isFinal f = true ∧ f = .ok status := by
  cases h with
  | decided decisive =>
    cases f with
    | ok found => simp_all [isOpen, isFinal]
    | error e => simp
  | late undecided noTime => simp [isFinal_of_isOpen undecided]

/-- Time is up if the last poll left the end of the job open. -/
theorem Ends.timeout_iff (h : Ends w clock requestId n f result)
    (patient : ∀ id elapsed, f ≠ .error (.timeout id elapsed)) :
    (∃ id elapsed, result = .error (.timeout id elapsed)) ↔ isOpen f = true := by
  cases h with
  | decided decisive =>
    rw [decisive]
    refine ⟨?_, nofun⟩
    rintro ⟨id, elapsed, timeout⟩
    exact absurd timeout (patient id elapsed)
  | late undecided noTime => exact ⟨fun _ => undecided, fun _ => ⟨_, _, rfl⟩⟩

/-- An open end of the job ends the wait only when there is no more time. -/
theorem Ends.late_of_isOpen (h : Ends w clock requestId n f result) (undecided : isOpen f = true) :
    w.hasTimeAfter (clock.after n) = false := by
  cases h with
  | decided decisive =>
    rw [undecided] at decisive
    cases decisive
  | late undecided noTime => exact noTime

/-- Errors that are not of the wait itself are those of the last poll that last. -/
theorem Ends.error_iff (h : Ends w clock requestId n f result) {e : Error}
    (other : ∀ id elapsed, e ≠ .timeout id elapsed) :
    result = .error e ↔ f = .error e ∧ e.isTransient = false := by
  cases h with
  | decided decisive =>
    refine ⟨?_, fun lasting => lasting.1⟩
    rintro rfl
    exact ⟨rfl, decisive⟩
  | late undecided noTime =>
    refine ⟨fun same => absurd (Except.error.inj same).symm (other _ _), ?_⟩
    rintro ⟨rfl, lasting⟩
    exact absurd undecided (by simp [isOpen, lasting])

end

variable {σ : Type} (client : Client σ)

/-- Every wait for a request takes one of the courses, and asks for nothing else. -/
theorem course_wait (w : Watch) (clock : Stopwatch) {requestId : String}
    (given : Text.trim requestId ≠ "") (s : σ) :
    let t := (w.wait clock requestId).transcript client s
    (∀ x ∈ t, x.call = .queryStatus (Text.trim requestId)) ∧
      Course w clock requestId 0 (findings t) ((w.wait clock requestId).run client s).result := by
  obtain ⟨answers, transcript, retried⟩ := retried_retryFrom client w clock
    (.queryStatus (Text.trim requestId))
    (fun answer => attempt (answer.bind (JobStatus.ofRaw? (Text.trim requestId)))) 0 s
  simp only [wait, Workflow.bind_eq, Workflow.transcript_bind, Workflow.run_bind, poll_eq given,
    Workflow.pure_eq_done, Workflow.transcript_done, Workflow.run_done, List.append_nil, transcript]
  refine ⟨?_, ?_⟩
  · rintro x inside
    obtain ⟨answer, -, rfl⟩ := List.mem_map.mp inside
    rfl
  · rw [findings_polls]
    refine .of_retried ?_
    rw [List.map_map]
    exact retried

/-! ## The verdict of a wait -/

/-- Between two polls the clock goes on by the interval at least. -/
def Sleeps (w : Watch) (clock : Stopwatch) : Prop :=
  ∀ n, clock.after n + w.interval ≤ clock.after (n + 1)

/-- What a wait for a request comes to is what its polls, the exchanges of a transcript, found. -/
structure FollowsPolls (w : Watch) (clock : Stopwatch) (requestId : String) (t : List Exchange)
    (result : Except Error JobStatus) : Prop where
  /-- Nothing is asked but the status of the request, at least once. -/
  polled : t ≠ [] ∧ ∀ x ∈ t, x.call = .queryStatus (Text.trim requestId)
  /-- Every poll finds something. -/
  found : (findings t).length = t.length
  /-- All polls but the last found the job going on or the cluster out of reach for now. -/
  earlier : ∀ f ∈ (findings t).dropLast, isOpen f = true
  /-- After all polls but the last another interval fitted into the time that was left. -/
  inTime : ∀ n, n + 1 < t.length → w.hasTimeAfter (clock.after n) = true
  /-- The wait comes to a status exactly if some poll found the job ended, and then to what the
  first such poll found. -/
  ok_iff : ∀ status, result = .ok status ↔ (findings t).find? isFinal = some (.ok status)
  /-- That poll was the last one. -/
  ok_last : ∀ status, result = .ok status → (findings t).getLast? = some (.ok status)
  /-- Time is up exactly if no poll found the job ended or failed for good. -/
  timeout_iff : (∃ id elapsed, result = .error (.timeout id elapsed)) ↔
    ∀ f ∈ findings t, isOpen f = true
  /-- Time is up only if no other interval fits into what is left of it. -/
  timeout_late : (∃ id elapsed, result = .error (.timeout id elapsed)) →
    w.hasTimeAfter (clock.after (t.length - 1)) = false
  /-- Any other error is the one that the last poll ended in, and not a transient one. -/
  error_iff : ∀ e, (∀ id elapsed, e ≠ .timeout id elapsed) →
    (result = .error e ↔ (findings t).getLast? = some (.error e) ∧ e.isTransient = false)
  /-- There are no more polls than the timeout has intervals, and the first one. -/
  few : w.Sleeps clock → 0 < w.interval → t.length ≤ 1 + w.timeout / w.interval

/-- If only polls are made, each of them finds something. -/
theorem length_findings {id : String} {t : List Exchange} (polls : ∀ x ∈ t, x.call = .queryStatus id) :
    (findings t).length = t.length := by
  induction t with
  | nil => rfl
  | cons x t ih =>
    obtain ⟨poll, others⟩ := List.forall_mem_cons.mp polls
    obtain ⟨call, answer⟩ := x
    obtain rfl : call = .queryStatus id := poll
    exact congrArg Nat.succ (ih others)

/-- A clock that sleeps shows so many intervals after so many polls. -/
theorem Sleeps.mul_le {w : Watch} {clock : Stopwatch} (sleeps : w.Sleeps clock) (n : Nat) :
    n * w.interval ≤ clock.after n := by
  induction n with
  | zero => omega
  | succ n ih =>
    have next := sleeps n
    rw [Nat.succ_mul]
    omega

theorem Sleeps.length_le {w : Watch} {clock : Stopwatch} (sleeps : w.Sleeps clock)
    (positive : 0 < w.interval) {n : Nat} (inTime : ∀ k < n, w.hasTimeAfter (clock.after k) = true) :
    n ≤ w.timeout / w.interval := by
  cases n with
  | zero => exact Nat.zero_le _
  | succ n =>
    have last : clock.after n + w.interval ≤ w.timeout := by
      simpa [hasTimeAfter] using inTime n (Nat.lt_succ_self n)
    have slept : n * w.interval ≤ clock.after n := sleeps.mul_le n
    rw [Nat.le_div_iff_mul_le positive, Nat.succ_mul]
    omega

/-- The course of a wait decides everything about it, if no poll ends in a timeout. -/
theorem FollowsPolls.of_course {w : Watch} {clock : Stopwatch} {requestId : String}
    {t : List Exchange} {result : Except Error JobStatus}
    (asked : ∀ x ∈ t, x.call = .queryStatus (Text.trim requestId))
    (course : Course w clock requestId 0 (findings t) result)
    (patient : ∀ f ∈ findings t, ∀ id elapsed, f ≠ .error (.timeout id elapsed)) :
    FollowsPolls w clock requestId t result := by
  obtain ⟨earlier, last, all, allOpen, allInTime, ends⟩ := course.eq_concat
  rw [Nat.zero_add] at ends
  have count : t.length = earlier.length + 1 := by
    rw [← length_findings asked, all, List.length_append, List.length_singleton]
  have inTime : ∀ k < earlier.length, w.hasTimeAfter (clock.after k) = true := fun k before => by
    simpa using allInTime k before
  have noneFinal : earlier.find? isFinal = none :=
    List.find?_eq_none.mpr fun f inside => by simp [isFinal_of_isOpen (allOpen f inside)]
  have firstFinal : (findings t).find? isFinal = if isFinal last then some last else none := by
    rw [all, List.find?_append, noneFinal, Option.none_or, List.find?_singleton]
  have lastFound : (findings t).getLast? = some last := by
    rw [all, List.getLast?_concat]
  have timeout_iff := ends.timeout_iff (patient last (List.mem_of_getLast? lastFound))
  constructor
  case polled =>
    refine ⟨?_, asked⟩
    rintro rfl
    cases count
  case found => exact length_findings asked
  case earlier =>
    rw [all, List.dropLast_concat]
    exact allOpen
  case inTime =>
    intro n before
    exact inTime n (by omega)
  case ok_iff =>
    intro status
    rw [firstFinal, ends.ok_iff, Option.ite_none_right_eq_some, Option.some_inj]
  case ok_last =>
    intro status ended
    rw [lastFound, ((ends.ok_iff status).mp ended).2]
  case timeout_iff =>
    rw [timeout_iff, all, List.forall_mem_append, List.forall_mem_singleton]
    exact (and_iff_right allOpen).symm
  case timeout_late =>
    intro timeout
    rw [count, Nat.add_sub_cancel]
    exact ends.late_of_isOpen (timeout_iff.mp timeout)
  case error_iff =>
    intro e other
    rw [lastFound, Option.some_inj]
    exact ends.error_iff other
  case few =>
    intro sleeps positive
    have few : earlier.length ≤ w.timeout / w.interval := sleeps.length_le positive inTime
    omega

/-- A client that never answers a status query with the timeout of a wait. -/
def NeverTimesOut {σ : Type} (client : Client σ) : Prop :=
  ∀ id s waited elapsed, (client.answer (.queryStatus id) s).1 ≠ .error (.timeout waited elapsed)

/-- A poll finds a timeout only if it is answered with one. -/
theorem bind_ofRaw?_ne_timeout {answer : Except Error RawJobStatus} {waited elapsed : String}
    (patient : answer ≠ .error (.timeout waited elapsed)) (id : String) :
    answer.bind (JobStatus.ofRaw? id) ≠ .error (.timeout waited elapsed) := by
  cases answer with
  | error e =>
    intro timeout
    cases timeout
    exact patient rfl
  | ok raw =>
    simp only [Except.bind, JobStatus.ofRaw?]
    split <;> simp

variable {client}

/-- A poll of a run finds what the client answers to it in some state. -/
theorem answer_of_mem_findings {α : Type} {wf : Workflow α} {s : σ} {f : Except Error JobStatus}
    (inside : f ∈ findings (wf.transcript client s)) :
    ∃ id s', f = (client.answer (.queryStatus id) s').1.bind (JobStatus.ofRaw? id) := by
  obtain ⟨x, exchanged, found⟩ := List.mem_filterMap.mp inside
  obtain ⟨call, answer⟩ := x
  cases call with
  | queryStatus id =>
    obtain ⟨s', -, rfl⟩ := Workflow.answered_transcript_iff.mp exchanged
    exact ⟨id, s', (Option.some.inj found).symm⟩
  | _ => cases found

/-- **A wait comes to what its polls found**, whatever a patient client answers and whatever the
clock shows. -/
theorem wait_follows_polls (patient : NeverTimesOut client) (w : Watch) (clock : Stopwatch)
    {requestId : String} (given : Text.trim requestId ≠ "") (s : σ) :
    FollowsPolls w clock requestId ((w.wait clock requestId).transcript client s)
      ((w.wait clock requestId).run client s).result := by
  obtain ⟨asked, course⟩ := course_wait client w clock given s
  refine .of_course asked course fun f inside waited elapsed => ?_
  obtain ⟨id, s', rfl⟩ := answer_of_mem_findings inside
  exact bind_ofRaw?_ne_timeout (patient id s' waited elapsed) id

/-- A simulated cluster has no timeouts. -/
theorem neverTimesOut_simulated (now : DateTime) : NeverTimesOut (Simulated.client now) := by
  intro id s waited elapsed
  simp only [Simulated.client, Simulated.Cluster.answer, Simulated.Cluster.queryCall]
  split <;> nofun

/-- A client over HTTP has none either, whatever the network does. -/
theorem neverTimesOut_http {ν : Type} (c : Config) (env : Http.Surroundings)
    (transport : Http.Transport ν) : NeverTimesOut (Http.client c env transport) := by
  intro id s waited elapsed
  simp only [Http.client, Http.answer, Http.send]
  split
  · simp [Http.unusableUrl, Except.bind]
  · simp only
    split
    · simp [Except.bind]
    · unfold Http.bodyOf
      split
      · simp only [Except.bind, RawJobStatus.ofBody?]
        split <;> simp [RawJobStatus.noState]
      · simp [Except.bind, Http.notJson]

/-- A steady clock sleeps between polls. -/
theorem sleeps_steady (w : Watch) (latency : Nat) :
    w.Sleeps (.steady latency w.interval w.timeout) := by
  intro n
  simp only [Stopwatch.steady, Stopwatch.ofReadings, Nat.succ_mul]
  split <;> split <;> omega

/-- A poll of a network that is out of reach does not end a wait. -/
theorem isOpen_of_unreachable {c : Config} {env : Http.Surroundings} {α : Type} {wf : Workflow α}
    {reason : String} {s : Http.State Unit} {f : Except Error JobStatus}
    (inside : f ∈ findings (wf.transcript (Http.client c env (.unreachable reason)) s)) :
    isOpen f = true := by
  obtain ⟨id, s', found⟩ := answer_of_mem_findings inside
  rw [found]
  simp only [Http.client, Http.answer, Http.send, Http.Transport.unreachable]
  split
  · simp [Except.bind, isOpen, Error.isTransient, Http.unusableUrl]
  · simp [Except.bind, isOpen, Error.isTransient]

/-- If the cluster stays out of reach, a wait for twelve milliseconds ends in a timeout after three
polls at most. -/
theorem wait_follows_polls_unreachable :
    let wait := (Watch.mk 5 12).wait (.steady 1 5 12) " r-1"
    let client := Http.client {} ⟨⟨2024, 1, 1, 12, 0, 0, 0⟩, .empty⟩
      (.unreachable "connection refused")
    (∃ id elapsed, (wait.run client ⟨0, ()⟩).result = .error (.timeout id elapsed)) ∧
      (wait.transcript client ⟨0, ()⟩).length ≤ 3 := by
  intro wait client
  have verdict : FollowsPolls ⟨5, 12⟩ (.steady 1 5 12) " r-1" (wait.transcript client ⟨0, ()⟩)
      (wait.run client ⟨0, ()⟩).result :=
    wait_follows_polls (neverTimesOut_http _ _ _) ⟨5, 12⟩ (.steady 1 5 12) (by decide) ⟨0, ()⟩
  refine ⟨verdict.timeout_iff.mpr fun f inside => isOpen_of_unreachable inside, ?_⟩
  exact verdict.few (sleeps_steady ⟨5, 12⟩ 1) (by decide)

end ClusterBackup.Watch
