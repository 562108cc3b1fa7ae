/-
ClusterBackup.Proofs.Http.RequestIds — the ids that a client over HTTP
makes for its jobs.

An id is put together from the operation, the collection, the moment and a
number. Collections are any texts and moments may come again, so only the
number tells ids apart, and it can be read off the id since it stands
behind the last hyphen (`number_of_jobId`).

`numbering_answer` says of every call what it does to the next number: a
submission whose parameters are settled takes it for the id of its job, one
whose parameters are not settled fails as if it had not been made, and no
other call has to do with ids. So the ids of a run have successive numbers
(`getElem?_ids`), whatever the surroundings were at each call and whatever
the network answered. There are no more of them than submissions, so a
number of 64 bits is enough for fewer than 2^64 of these.

An id is taken before it is known whether its request can be sent at all.
A submission that fails in between has used its number up, and no request
ever carries its id.
-/
import ClusterBackup.Proofs.Http.Call
import ClusterBackup.Proofs.Text.Blank
import ClusterBackup.Proofs.Text.Split
import Mathlib.Data.List.Nodup

namespace ClusterBackup.Http

/-! ## Ids and their numbers -/

/-- Not empty, and without white space at its ends. -/
structure Clean (id : String) : Prop where
  something : id ≠ ""
  first : ∀ c ∈ id.toList.head?, Text.isSpace c = false
  last : ∀ c ∈ id.toList.getLast?, Text.isSpace c = false

/-- What stands behind the last separator is the same in equal texts. -/
theorem eq_of_append_cons_eq {separator : Char} {a b d e : List Char} (d_plain : separator ∉ d)
    (e_plain : separator ∉ e) (same : a ++ separator :: d = b ++ separator :: e) : d = e := by
  have reversed := congrArg (fun cs => (Text.cut separator (List.reverse cs)).1) same
  simpa [Text.cut_append_cons, d_plain, e_plain] using reversed

theorem digits_number (number : Nat) : (toString number).toList = Nat.toDigits 10 number := by
  simp [Nat.toList_repr]

theorem isDigit_of_mem_number {number : Nat} {c : Char} (inside : c ∈ (toString number).toList) :
    c.isDigit = true := by
  rw [digits_number] at inside
  exact Nat.isDigit_of_mem_toDigits (by decide) (by decide) inside

section

variable {operation operation' : Operation} {collection collection' : Collection}
  {now now' : DateTime} {m n : Nat}

/-- An id ends in a hyphen and its number. -/
theorem toList_jobId (operation : Operation) (collection : Collection) (now : DateTime)
    (number : Nat) : (jobId operation collection now number).toList =
      (operation.label ++ "-" ++ collection.name ++ "-"
        ++ String.ofList (Snapshot.stamp now)).toList ++ '-' :: (toString number).toList := by
  simp [jobId]

/-- Ids with different numbers are different, however their other parts look. -/
theorem number_of_jobId (same : jobId operation collection now m =
    jobId operation' collection' now' n) : m = n := by
  have noHyphen : ∀ number : Nat, '-' ∉ (toString number).toList := fun number inside =>
    absurd (isDigit_of_mem_number inside) (by decide)
  have chars := congrArg String.toList same
  rw [toList_jobId, toList_jobId] at chars
  have digits := eq_of_append_cons_eq (noHyphen m) (noHyphen n) chars
  rw [digits_number, digits_number] at digits
  calc m = Nat.ofDigitChars 10 (Nat.toDigits 10 m) 0 := Nat.ofDigitChars_ten_toDigits.symm
    _ = n := by rw [digits, Nat.ofDigitChars_ten_toDigits]

/-- An id starts with a letter and ends in a digit. -/
theorem clean_jobId (operation : Operation) (collection : Collection) (now : DateTime)
    (number : Nat) : Clean (jobId operation collection now number) where
  something empty := by
    have chars := congrArg String.toList empty
    simp [jobId] at chars
  first c inside := by
    have letter : operation.label.toList.head? = some c := by
      cases operation <;> simpa [jobId, Operation.label] using inside
    cases operation <;> (cases letter; rfl)
  last c inside := by
    have digits : (toString number).toList ≠ [] := by
      rw [digits_number]
      exact Nat.toDigits_ne_nil
    rw [jobId, String.toList_append, List.getLast?_append_of_ne_nil _ digits] at inside
    exact Text.isSpace_of_isDigit (isDigit_of_mem_number (List.mem_of_mem_getLast? inside))

end

/-! ## What a call does to the number -/

/-- The job that a call is to have queued. -/
def submitted? : AdminCall → Option (Operation × SnapshotRequest)
  | .submitBackup r => some (.backup, r)
  | .submitRestore r => some (.restore, r)
  | _ => none

/-- The id that is taken for a job. It is among the parameters of the request, whether or not this
request can be sent. -/
def Plan.takenId? {α : Type} : Plan α → Option String
  | settled _ => none
  | posted _ params _ _ => params.lookup "async"

section

variable {c : Config} {env : Surroundings} {operation : Operation} {r : SnapshotRequest}
  {params : Params}

/-- A backup or a restore has no id by itself. -/
theorem lookup_snapshotParams (settled : snapshotParams c env operation r = .ok params) :
    params.lookup "async" = none := by
  rw [snapshotParams] at settled
  cases named : backupName c env operation r with
  | error e =>
    rw [named] at settled
    cases settled
  | ok name =>
    rw [named] at settled
    obtain rfl := Except.ok.inj settled
    cases c.locationFor r.location <;> cases operation <;>
      simp [layoutParams, List.lookup_cons]

end

section

variable {ν : Type} (c : Config) (t : Transport ν)

/-- What a call in its surroundings does to the next number and, with it, to the state. -/
inductive Numbering (env : Surroundings) (call : AdminCall) (s s' : State ν) :
    Option String → Prop where
  /-- It is no submission. -/
  | other (no : submitted? call = none) (same : s'.nextId = s.nextId) :
      Numbering env call s s' none
  /-- Its parameters are not settled, and it leaves everything as it is. -/
  | unsettled {operation : Operation} {r : SnapshotRequest} {e : Error}
      (submitted : submitted? call = some (operation, r))
      (failed : snapshotParams c env operation r = .error e) (same : s' = s) :
      Numbering env call s s' none
  /-- It takes the number for its id. -/
  | taken {operation : Operation} {r : SnapshotRequest} {params : Params}
      (submitted : submitted? call = some (operation, r))
      (settled : snapshotParams c env operation r = .ok params) (next : s'.nextId = s.nextId + 1) :
      Numbering env call s s' (some (jobId operation r.collection env.now s.nextId))

/-- To carry out a plan with a request leaves the number that the plan says. -/
theorem nextId_carryOut {α : Type} {p : Plan α} {url : String} {params : Params} {nextId : Nat}
    {read : Json → Except Error α} (posted : p = .posted url params nextId read) (s : State ν) :
    (p.carryOut t s).2.nextId = nextId := by
  rw [posted, Plan.carryOut, send]
  cases requestUrl? url params <;> rfl

variable {c t}

theorem numbering_runPlan {env : Surroundings} {call : AdminCall} (no : submitted? call = none)
    (operation : Operation) (r : SnapshotRequest) (s : State ν) :
    Numbering c env call s ((runPlan c env s.nextId operation r).carryOut t s).2
      (runPlan c env s.nextId operation r).takenId? := by
  unfold runPlan
  cases settled : snapshotParams c env operation r with
  | error e => exact .other no rfl
  | ok params =>
    rw [Plan.takenId?, lookup_snapshotParams settled]
    exact .other no (nextId_carryOut t rfl s)

theorem numbering_submitPlan {env : Surroundings} {call : AdminCall} {operation : Operation}
    {r : SnapshotRequest} (submitted : submitted? call = some (operation, r)) (s : State ν) :
    Numbering c env call s ((submitPlan c env s.nextId operation r).carryOut t s).2
      (submitPlan c env s.nextId operation r).takenId? := by
  unfold submitPlan
  cases settled : snapshotParams c env operation r with
  | error e => exact .unsettled submitted settled rfl
  | ok params =>
    have own : (params ++ [("async", jobId operation r.collection env.now s.nextId)]).lookup
        "async" = some (jobId operation r.collection env.now s.nextId) := by
      rw [List.lookup_append, lookup_snapshotParams settled]
      rfl
    rw [Plan.takenId?, own]
    exact .taken submitted settled (nextId_carryOut t rfl s)

/-- Every call is numbered as its plan has it. -/
theorem numbering_answer (env : Surroundings) (call : AdminCall) (s : State ν) :
    Numbering c env call s (answer c env t call s).2 (plan c env s.nextId call).takenId? := by
  rw [answer_eq]
  cases call with
  | prepareRestore r => exact .other rfl rfl
  | collectionExists collection => exact .other rfl (nextId_carryOut t rfl s)
  | delete collection => exact .other rfl (nextId_carryOut t rfl s)
  | optimize collection => exact .other rfl (nextId_carryOut t rfl s)
  | queryStatus requestId => exact .other rfl (nextId_carryOut t rfl s)
  | backup r => exact numbering_runPlan rfl .backup r s
  | restore r => exact numbering_runPlan rfl .restore r s
  | submitBackup r => exact numbering_submitPlan rfl s
  | submitRestore r => exact numbering_submitPlan rfl s

/-- A submission whose parameters are not settled fails and leaves everything as it is. -/
theorem answer_of_unsettled {env : Surroundings} {call : AdminCall} {operation : Operation}
    {r : SnapshotRequest} {e : Error} (submitted : submitted? call = some (operation, r))
    (failed : snapshotParams c env operation r = .error e) (s : State ν) :
    answer c env t call s = (.error e, s) := by
  cases call with
  | submitBackup r' | submitRestore r' =>
    cases submitted
    rw [answer, submitSnapshot, failed]
  | _ => cases submitted

/-- A submission whose parameters are settled takes the next number, whatever becomes of it. -/
theorem taken_of_settled {env : Surroundings} {call : AdminCall} {operation : Operation}
    {r : SnapshotRequest} {params : Params} (submitted : submitted? call = some (operation, r))
    (settled : snapshotParams c env operation r = .ok params) (s : State ν) :
    (plan c env s.nextId call).takenId? = some (jobId operation r.collection env.now s.nextId) ∧
      (answer c env t call s).2.nextId = s.nextId + 1 := by
  have numbering := numbering_answer (c := c) (t := t) env call s
  generalize (plan c env s.nextId call).takenId? = id? at numbering ⊢
  cases numbering with
  | other no same =>
    rw [submitted] at no
    cases no
  | unsettled submitted' failed same =>
    cases submitted.symm.trans submitted'
    cases settled.symm.trans failed
  | taken submitted' settled' next =>
    cases submitted.symm.trans submitted'
    exact ⟨rfl, next⟩

/-! ## Runs -/

/-- A call, and what the client sees around it. -/
structure Turn where
  env : Surroundings
  call : AdminCall

variable (c t)

/-- The client after calls, one after another. -/
def after (s : State ν) (turns : List Turn) : State ν :=
  turns.foldl (fun s turn => (answer c turn.env t turn.call s).2) s

/-- The ids that are taken, one after another. -/
def ids : State ν → List Turn → List String
  | _, [] => []
  | s, turn :: turns =>
    (plan c turn.env s.nextId turn.call).takenId?.toList ++
      ids (answer c turn.env t turn.call s).2 turns

variable {c t}

/-- The ids of a run have successive numbers. -/
theorem getElem?_ids {turns : List Turn} {s : State ν} {k : Nat} {id : String}
    (inside : (ids c t s turns)[k]? = some id) :
    ∃ operation collection now, id = jobId operation collection now (s.nextId + k) := by
  induction turns generalizing s k with
  | nil => simp [ids] at inside
  | cons turn turns ih =>
    have numbering := numbering_answer (c := c) (t := t) turn.env turn.call s
    rw [ids] at inside
    generalize (plan c turn.env s.nextId turn.call).takenId? = id? at numbering inside
    cases numbering with
    | other no same =>
      rw [← same]
      exact ih inside
    | unsettled submitted failed same =>
      rw [same] at inside
      exact ih inside
    | @taken operation r params submitted settled next =>
      cases k with
      | zero =>
        obtain rfl := Option.some.inj inside
        exact ⟨operation, r.collection, turn.env.now, rfl⟩
      | succ k =>
        obtain ⟨operation, collection, now, rfl⟩ := ih (k := k) inside
        exact ⟨operation, collection, now, by rw [next, Nat.add_assoc, Nat.add_comm 1 k]⟩

/-- Every id of a run took one number. -/
theorem nextId_after (turns : List Turn) (s : State ν) :
    (after c t s turns).nextId = s.nextId + (ids c t s turns).length := by
  induction turns generalizing s with
  | nil => rfl
  | cons turn turns ih =>
    have numbering := numbering_answer (c := c) (t := t) turn.env turn.call s
    change (after c t (answer c turn.env t turn.call s).2 turns).nextId = _
    rw [ih, ids, List.length_append]
    generalize (plan c turn.env s.nextId turn.call).takenId? = id? at numbering ⊢
    cases numbering with
    | other no same => simp [same]
    | unsettled submitted failed same => simp [same]
    | taken submitted settled next =>
      rw [next]
      simp [Nat.add_assoc]

/-- There are no more ids than submissions. -/
theorem length_ids_le (turns : List Turn) (s : State ν) :
    (ids c t s turns).length ≤ turns.countP fun turn => (submitted? turn.call).isSome := by
  induction turns generalizing s with
  | nil => exact Nat.le_refl 0
  | cons turn turns ih =>
    have numbering := numbering_answer (c := c) (t := t) turn.env turn.call s
    have later := ih (answer c turn.env t turn.call s).2
    rw [ids, List.length_append, List.countP_cons]
    generalize (plan c turn.env s.nextId turn.call).takenId? = id? at numbering ⊢
    cases numbering with
    | other no same => simpa [no] using later
    | unsettled submitted failed same => simpa [submitted] using Nat.le_succ_of_le later
    | taken submitted settled next =>
      simp [submitted]
      omega

/-- **The ids of a client are unique and clean.** Whatever calls are made, in whatever surroundings
and with whatever answers, no two ids that are taken for jobs are the same, and each starts and ends
with a character that is no white space. Their numbers follow one another, one for each id, and
there are no more than submissions. A submission whose parameters are not settled leaves everything
as it is, the next number included; any other takes the next number, even if it sends nothing. -/
theorem request_ids_are_unique {ν : Type} (c : Config) (t : Transport ν) (s : State ν)
    (turns : List Turn) :
    (ids c t s turns).Nodup ∧
    (∀ id ∈ ids c t s turns, Clean id) ∧
    (∀ k id, (ids c t s turns)[k]? = some id →
      ∃ operation collection now, id = jobId operation collection now (s.nextId + k)) ∧
    (after c t s turns).nextId = s.nextId + (ids c t s turns).length ∧
    ((ids c t s turns).length ≤ turns.countP fun turn => (submitted? turn.call).isSome) ∧
    ∀ (env : Surroundings) (call : AdminCall) (operation : Operation) (r : SnapshotRequest),
      submitted? call = some (operation, r) → ∀ s' : State ν,
        (∀ e, snapshotParams c env operation r = .error e →
          answer c env t call s' = (.error e, s')) ∧
        (∀ params, snapshotParams c env operation r = .ok params →
          (plan c env s'.nextId call).takenId? =
              some (jobId operation r.collection env.now s'.nextId) ∧
            (answer c env t call s').2.nextId = s'.nextId + 1) := by
  refine ⟨?_, ?_, fun _ _ => getElem?_ids, nextId_after turns s, length_ids_le turns s,
    fun _ _ _ _ submitted s' => ⟨fun _ failed => answer_of_unsettled submitted failed s',
      fun _ settled => taken_of_settled submitted settled s'⟩⟩
  · rw [List.nodup_iff_getElem?_ne_getElem?]
    intro i j before inside same
    have second : (ids c t s turns)[j]? = some (ids c t s turns)[j] :=
      List.getElem?_eq_getElem inside
    obtain ⟨operation, collection, now, own⟩ := getElem?_ids second
    obtain ⟨operation', collection', now', other⟩ := getElem?_ids (same.trans second)
    have numbers := number_of_jobId (other.symm.trans own)
    omega
  · intro id inside
    obtain ⟨k, place⟩ := List.mem_iff_getElem?.mp inside
    obtain ⟨operation, collection, now, rfl⟩ := getElem?_ids place
    exact clean_jobId operation collection now _

end

/-- Noon of a day, and no files. -/
def bareNoon : Surroundings := ⟨⟨2024, 1, 1, 12, 0, 0, 0⟩, .empty⟩

/-- A network that counts the requests that come to it, and answers none. -/
def counting : Transport Nat := fun _ n => (.error "no answer", n + 1)

/-- With a base URL that has no scheme, a backup that is to be queued fails before anything is sent,
and has taken a number all the same. -/
theorem unsent_submission_takes_number :
    let c : Config := { baseUrl := "solr" }
    let call : AdminCall := .submitBackup ⟨.default, none, none⟩
    let s : State Nat := { network := 0 }
    c.validate = .ok () ∧ (answer c bareNoon counting call s).1 = .error unusableUrl ∧
      (answer c bareNoon counting call s).2.network = s.network ∧
      (answer c bareNoon counting call s).2.nextId = s.nextId + 1 := by
  decide +kernel

/-- A collection whose name looks like the end of an id. -/
def lookalike : Collection := ⟨"catalog-20240101120000000-0", by decide, by decide⟩

/-- Two backups that are queued at one moment, and between them a restore of which nobody says what
to restore. -/
def busyNoon : List Turn :=
  [⟨bareNoon, .submitBackup ⟨.default, none, none⟩⟩,
    ⟨bareNoon, .submitRestore ⟨.default, none, none⟩⟩,
    ⟨bareNoon, .submitBackup ⟨lookalike, none, none⟩⟩]

/-- The restore fails and takes no number, and the ids of the backups are different. -/
theorem request_ids_are_unique_noon :
    let t : Transport Unit := .unreachable "connection refused"
    ids {} t ⟨0, ()⟩ busyNoon = ["backup-catalog-20240101120000000-0",
        "backup-catalog-20240101120000000-0-20240101120000000-1"] ∧
      (ids {} t ⟨0, ()⟩ busyNoon).Nodup ∧ (after {} t ⟨0, ()⟩ busyNoon).nextId = 2 ∧
      answer {} bareNoon t (.submitRestore ⟨.default, none, none⟩) ⟨1, ()⟩ =
        (.error missingLocation, ⟨1, ()⟩) ∧
      (answer {} bareNoon t (.submitBackup ⟨lookalike, none, none⟩) ⟨1, ()⟩).2.nextId = 2 := by
  intro t
  obtain ⟨unique, -, -, counted, -, submissions⟩ := request_ids_are_unique {} t ⟨0, ()⟩ busyNoon
  have made : ids {} t ⟨0, ()⟩ busyNoon = ["backup-catalog-20240101120000000-0",
      "backup-catalog-20240101120000000-0-20240101120000000-1"] := by decide +kernel
  have restore :=
    submissions bareNoon (.submitRestore ⟨.default, none, none⟩) .restore _ rfl ⟨1, ()⟩
  have backup := submissions bareNoon (.submitBackup ⟨lookalike, none, none⟩) .backup _ rfl ⟨1, ()⟩
  refine ⟨made, unique, ?_, restore.1 missingLocation rfl, (backup.2 _ rfl).2⟩
  rw [counted, made]
  rfl

end ClusterBackup.Http
