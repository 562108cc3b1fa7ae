/-
ClusterBackup.Proofs.BlankName — a backup name that is there, but blank.

A request may have a name of nothing but white space. A cluster behind HTTP
reads it as no name at all, in every call that carries a request. A
simulated cluster takes it for the name of a backup: what it answers is
what it would answer without the name only where the name does not come
into the answer, because the call meets a fault, or because it is refused
for a reason that has nothing to do with the name.
-/
import ClusterBackup.Http.Client
import ClusterBackup.Proofs.Simulated.AtOnce
import ClusterBackup.Proofs.Snapshot.Latest

namespace ClusterBackup

/-- The same request without a name. -/
def SnapshotRequest.unnamed (r : SnapshotRequest) : SnapshotRequest := { r with backupName := none }

@[simp] theorem SnapshotRequest.collection_unnamed (r : SnapshotRequest) :
    r.unnamed.collection = r.collection := rfl

@[simp] theorem SnapshotRequest.location_unnamed (r : SnapshotRequest) :
    r.unnamed.location = r.location := rfl

@[simp] theorem SnapshotRequest.backupName_unnamed (r : SnapshotRequest) :
    r.unnamed.backupName = none := rfl

/-- The request has a name, and it is blank. -/
def SnapshotRequest.HasBlankName (r : SnapshotRequest) : Prop :=
  ∃ name, r.backupName = some name ∧ Text.isBlank name = true

/-- Two requests come to the same, whichever call carries them. -/
structure Client.ReadsAlike {σ : Type} (client : Client σ) (r r' : SnapshotRequest) (s : σ) :
    Prop where
  prepareRestore : client.answer (.prepareRestore r) s = client.answer (.prepareRestore r') s
  backup : client.answer (.backup r) s = client.answer (.backup r') s
  submitBackup : client.answer (.submitBackup r) s = client.answer (.submitBackup r') s
  restore : client.answer (.restore r) s = client.answer (.restore r') s
  submitRestore : client.answer (.submitRestore r) s = client.answer (.submitRestore r') s

variable {r : SnapshotRequest}

/-! ## Behind HTTP -/

namespace Http

variable (c : Config) (env : Surroundings) (operation : Operation)

/-- The name under which a backup is taken or restored does not depend on a blank one. -/
theorem backupName_unnamed (blank : r.HasBlankName) :
    backupName c env operation r = backupName c env operation r.unnamed := by
  obtain ⟨name, named, blank⟩ := blank
  simp only [backupName, named, SnapshotRequest.backupName_unnamed, Option.bind_some,
    Option.bind_none, Text.nonBlank?, blank, if_true, SnapshotRequest.location_unnamed]

theorem snapshotParams_unnamed (blank : r.HasBlankName) :
    snapshotParams c env operation r = snapshotParams c env operation r.unnamed := by
  rw [snapshotParams, snapshotParams, backupName_unnamed c env operation blank,
    SnapshotRequest.collection_unnamed, SnapshotRequest.location_unnamed]

variable {ν : Type} (t : Transport ν)

theorem runSnapshot_unnamed (blank : r.HasBlankName) (s : State ν) :
    runSnapshot c env t operation r s = runSnapshot c env t operation r.unnamed s := by
  rw [runSnapshot, runSnapshot, snapshotParams_unnamed c env operation blank]

theorem submitSnapshot_unnamed (blank : r.HasBlankName) (s : State ν) :
    submitSnapshot c env t operation r s = submitSnapshot c env t operation r.unnamed s := by
  rw [submitSnapshot, submitSnapshot, snapshotParams_unnamed c env operation blank,
    SnapshotRequest.collection_unnamed]

/-- **Behind HTTP a blank name is no name**, whatever the call. -/
theorem readsAlike_unnamed (blank : r.HasBlankName) (s : State ν) :
    (client c env t).ReadsAlike r r.unnamed s where
  prepareRestore := by
    simp only [client, answer, backupName_unnamed c env .restore blank,
      SnapshotRequest.collection_unnamed, SnapshotRequest.location_unnamed]
  backup := by
    simpa only [client, answer] using runSnapshot_unnamed c env .backup t blank s
  submitBackup := by
    simpa only [client, answer] using submitSnapshot_unnamed c env .backup t blank s
  restore := by
    simpa only [client, answer] using runSnapshot_unnamed c env .restore t blank s
  submitRestore := by
    simpa only [client, answer] using submitSnapshot_unnamed c env .restore t blank s

end Http

/-! ## On a simulated cluster -/

namespace Simulated

namespace Cluster

variable {s : Cluster}

/-- The work on two requests differs in what it does only if it differs in its result. -/
def ToldByResult (act act' : Cluster → AdminResponse × Cluster) : Prop :=
  ∀ s, (act s).1 = (act' s).1 → act s = act' s

/-- Work that is done at once is answered alike if a fault stands in for it, or if its results are
the same. -/
theorem guarded_eq_iff {act act' : Cluster → AdminResponse × Cluster} (told : ToldByResult act act')
    (kind : CallKind) (target : String) :
    s.guarded kind target act = s.guarded kind target act' ↔
      (s.enter kind target).1 ≠ none ∨
        (act (s.enter kind target).2).1 = (act' (s.enter kind target).2).1 := by
  unfold guarded
  rcases s.enter kind target with ⟨_ | fault, s'⟩
  · simp only [ne_eq, not_true_eq_false, false_or, Prod.mk.injEq, Except.ok.injEq]
    exact ⟨fun same => same.1, fun same => by rw [told s' same]; exact ⟨rfl, rfl⟩⟩
  · simp

/-- The job that was queued last keeps the result of its work. -/
theorem result_of_track_eq {operation : Operation} {result result' : AdminResponse}
    {s s' : Cluster} (same : s.track operation result = s'.track operation result') :
    result = result' := by
  have jobs : (s.track operation result).2.jobs = (s'.track operation result').2.jobs := by
    rw [same]
  simp only [track] at jobs
  have last := (List.append_inj' jobs (by simp)).2
  simp only [List.cons.injEq, Prod.mk.injEq, Job.mk.injEq] at last
  exact last.1.2.2.2

/-- Work that is queued is answered alike under the same conditions. -/
theorem submit_eq_iff {act act' : Cluster → AdminResponse × Cluster} (told : ToldByResult act act')
    {r r' : SnapshotRequest} (collection : r'.collection = r.collection) (kind : CallKind)
    (operation : Operation) :
    s.submit kind operation r act = s.submit kind operation r' act' ↔
      (s.enter kind r.collection.name).1 ≠ none ∨
        (act (s.enter kind r.collection.name).2).1 =
          (act' (s.enter kind r.collection.name).2).1 := by
  unfold submit
  rw [collection]
  rcases s.enter kind r.collection.name with ⟨_ | fault, s'⟩
  · simp only [ne_eq, not_true_eq_false, false_or]
    constructor
    · intro same
      obtain ⟨answer, state⟩ := Prod.mk.inj same
      refine result_of_track_eq (Prod.ext ?_ state)
      exact Submission.accepted.inj (Except.ok.inj answer)
    · intro same
      rw [told s' same]
  · simp

/-! ### Backups -/

/-- A backup that is named by the time has no blank name. -/
theorem isBlank_name (t : DateTime) : Text.isBlank (Snapshot.name t) = false := by
  simp [Text.isBlank, Snapshot.name, Snapshot.namePrefix, Text.isSpace]

theorem performBackup_of_absent {r : SnapshotRequest} (now : DateTime)
    (absent : s.hasCollection r.collection.name = false) :
    performBackup now r s = (refused 400 "Collection not found" r.collection.name, s) := by
  simp [performBackup, absent]

/-- Where there is something to back up, the answer has the name of the backup in it. -/
theorem result_performBackup_of_present {r : SnapshotRequest} (now : DateTime)
    (present : s.hasCollection r.collection.name = true) :
    (performBackup now r s).1 =
      if (s.backupsAt (s.locationKey r.location)).contains
          (r.backupName.getD (Snapshot.name now)) then
        refused 400 "Backup already exists" (r.backupName.getD (Snapshot.name now))
      else AdminResponse.ok.withMessage (r.backupName.getD (Snapshot.name now)) := by
  simp only [performBackup, present, if_true]
  split <;> rfl

/-- Under a blank name and under that of the moment, a backup has the same result only if there is
nothing to back up. -/
theorem result_performBackup_eq_iff (now : DateTime) (blank : r.HasBlankName) :
    (performBackup now r s).1 = (performBackup now r.unnamed s).1 ↔
      s.hasCollection r.collection.name = false := by
  obtain ⟨name, named, blank⟩ := blank
  constructor
  · intro same
    cases present : s.hasCollection r.collection.name with
    | false => rfl
    | true =>
      exfalso
      have other : name ≠ Snapshot.name now := by
        rintro rfl
        rw [isBlank_name] at blank
        cases blank
      rw [result_performBackup_of_present now present,
        result_performBackup_of_present (r := r.unnamed) now present, named] at same
      simp only [SnapshotRequest.location_unnamed, SnapshotRequest.backupName_unnamed,
        Option.getD_some, Option.getD_none] at same
      cases taken : (s.backupsAt (s.locationKey r.location)).contains name <;>
        cases taken' : (s.backupsAt (s.locationKey r.location)).contains (Snapshot.name now) <;>
          simp [taken, taken', refused, AdminResponse.failed, AdminResponse.ok,
            AdminResponse.withMessage, other] at same
  · intro absent
    rw [performBackup_of_absent now absent, performBackup_of_absent (r := r.unnamed) now absent]
    rfl

theorem performBackup_toldByResult (now : DateTime) (blank : r.HasBlankName) :
    ToldByResult (performBackup now r) (performBackup now r.unnamed) := by
  intro s same
  have absent := (result_performBackup_eq_iff now blank).mp same
  rw [performBackup_of_absent now absent, performBackup_of_absent (r := r.unnamed) now absent]
  rfl

/-! ### Restores -/

/-- A restore of a backup that is not there is refused with what was looked for. -/
theorem performRestore_of_unavailable (missing : ¬ s.Available r) :
    performRestore r s = (refused 400 "Backup not found"
      (s.locationKey r.location ++ "/" ++ (s.wantedBackup r).getD ""), s) := by
  have missing : s.holdsWanted r = false := by
    rwa [← Bool.not_eq_true, holdsWanted_iff]
  unfold holdsWanted at missing
  cases wanted : s.wantedBackup r with
  | none => simp [performRestore, wanted]
  | some name =>
    rw [wanted] at missing
    simp [performRestore, wanted, missing]

/-- A restore of a backup that is there is a question of the collection. -/
theorem performRestore_of_available {name : String} (wanted : s.IsWanted r name)
    (held : name ∈ s.backupNames r.location) :
    performRestore r s = if s.hasCollection r.collection.name then
        (refused 400 "Collection already exists" r.collection.name, s)
      else (AdminResponse.ok.withMessage name, s.createCollection r.collection.name) := by
  rw [performRestore, isWanted_iff.mp wanted]
  simp only [mem_backupNames_iff.mp held, if_true]

/-- Without a name, what is available is the latest backup. -/
theorem isWanted_of_available_unnamed (available : s.Available r.unnamed) :
    ∃ latest, s.IsWanted r.unnamed latest ∧ latest ∈ s.backupNames r.location ∧
      Text.isBlank latest = false := by
  obtain ⟨latest, held, wanted⟩ := available
  obtain ⟨-, t, told, -⟩ := Snapshot.mem_of_latest? wanted
  exact ⟨latest, wanted, held, Snapshot.isBlank_of_timestamp? told⟩

theorem wantedBackup_of_not_available_unnamed (missing : ¬ s.Available r.unnamed) :
    s.wantedBackup r.unnamed = none := by
  cases wanted : s.wantedBackup r.unnamed with
  | none => rfl
  | some latest =>
    have wanted := isWanted_iff.mpr wanted
    exact absurd ⟨latest, (Snapshot.mem_of_latest? wanted).1, wanted⟩ missing

/-- A restore is refused in the same words with a blank name and without it: the collection is in
the way of either backup, or there is neither and the blank name is the empty text. -/
def RefusedAlike (s : Cluster) (r : SnapshotRequest) : Prop :=
  s.Available r ∧ s.Available r.unnamed ∧ s.hasCollection r.collection.name = true ∨
    ¬ s.Available r ∧ ¬ s.Available r.unnamed ∧ r.backupName = some ""

theorem performRestore_of_refusedAlike (alike : s.RefusedAlike r) :
    performRestore r s = performRestore r.unnamed s := by
  rcases alike with ⟨⟨name, held, wanted⟩, latest, present⟩ | ⟨missing, missing', named⟩
  · obtain ⟨latest, wanted', held', -⟩ := isWanted_of_available_unnamed latest
    rw [performRestore_of_available wanted held, performRestore_of_available wanted' held',
      SnapshotRequest.collection_unnamed, if_pos present, if_pos present]
  · have wanted : s.wantedBackup r = some "" := isWanted_iff.mp (by rw [IsWanted, named])
    rw [performRestore_of_unavailable missing, performRestore_of_unavailable missing',
      wantedBackup_of_not_available_unnamed missing', wanted]
    rfl

/-- A restore of a blank name and one without a name have the same result only if they are refused
in the same words. -/
theorem result_performRestore_eq_iff (blank : r.HasBlankName) :
    (performRestore r s).1 = (performRestore r.unnamed s).1 ↔ s.RefusedAlike r := by
  refine ⟨fun same => ?_, fun alike => by rw [performRestore_of_refusedAlike alike]⟩
  obtain ⟨name, named, blank⟩ := blank
  have wanted : s.IsWanted r name := by rw [IsWanted, named]
  by_cases available : s.Available r
  · obtain ⟨given, held, given_eq⟩ := available
    obtain rfl : given = name := by rwa [IsWanted, named] at given_eq
    by_cases available' : s.Available r.unnamed
    · obtain ⟨latest, wanted', held', solid⟩ := isWanted_of_available_unnamed available'
      rw [performRestore_of_available wanted held, performRestore_of_available wanted' held',
        SnapshotRequest.collection_unnamed] at same
      cases present : s.hasCollection r.collection.name with
      | true => exact .inl ⟨⟨given, held, wanted⟩, available', present⟩
      | false =>
        simp only [present, Bool.false_eq_true, if_false, AdminResponse.withMessage,
          AdminResponse.mk.injEq, Option.some.injEq, true_and] at same
        rw [same, solid] at blank
        cases blank
    · rw [performRestore_of_available wanted held, performRestore_of_unavailable available'] at same
      cases present : s.hasCollection r.collection.name <;>
        simp [present, refused, AdminResponse.failed, AdminResponse.ok,
          AdminResponse.withMessage] at same
  · by_cases available' : s.Available r.unnamed
    · obtain ⟨latest, wanted', held', -⟩ := isWanted_of_available_unnamed available'
      rw [performRestore_of_unavailable available, performRestore_of_available wanted' held',
        SnapshotRequest.collection_unnamed] at same
      cases present : s.hasCollection r.collection.name <;>
        simp [present, refused, AdminResponse.failed, AdminResponse.ok,
          AdminResponse.withMessage] at same
    · rw [performRestore_of_unavailable available, performRestore_of_unavailable available',
        wantedBackup_of_not_available_unnamed available', isWanted_iff.mp wanted,
        SnapshotRequest.location_unnamed] at same
      refine .inr ⟨available, available', ?_⟩
      simpa [refused, AdminResponse.failed, named] using same

theorem performRestore_toldByResult (blank : r.HasBlankName) :
    ToldByResult (performRestore r) (performRestore r.unnamed) :=
  fun _ same => performRestore_of_refusedAlike ((result_performRestore_eq_iff blank).mp same)

/-! ### Calls -/

section

variable (now : DateTime) (blank : r.HasBlankName)
include blank

theorem prepareRestore_unnamed_ne :
    answer now (.prepareRestore r) s ≠ answer now (.prepareRestore r.unnamed) s := by
  obtain ⟨name, named, -⟩ := blank
  intro same
  have same : r = r.unnamed := Except.ok.inj (Prod.mk.inj same).1
  have names : r.backupName = none := congrArg (·.backupName) same
  rw [named] at names
  cases names

theorem backup_unnamed_eq_iff :
    answer now (.backup r) s = answer now (.backup r.unnamed) s ↔
      s.met? (.backup r) ≠ none ∨ s.hasCollection r.collection.name = false :=
  (guarded_eq_iff (performBackup_toldByResult now blank) _ _).trans
    (or_congr Iff.rfl (result_performBackup_eq_iff now blank))

theorem submitBackup_unnamed_eq_iff :
    answer now (.submitBackup r) s = answer now (.submitBackup r.unnamed) s ↔
      s.met? (.submitBackup r) ≠ none ∨ s.hasCollection r.collection.name = false :=
  (submit_eq_iff (performBackup_toldByResult now blank) rfl _ _).trans
    (or_congr Iff.rfl (result_performBackup_eq_iff now blank))

theorem restore_unnamed_eq_iff :
    answer now (.restore r) s = answer now (.restore r.unnamed) s ↔
      s.met? (.restore r) ≠ none ∨ s.RefusedAlike r :=
  (guarded_eq_iff (performRestore_toldByResult blank) _ _).trans
    (or_congr Iff.rfl (result_performRestore_eq_iff blank))

theorem submitRestore_unnamed_eq_iff :
    answer now (.submitRestore r) s = answer now (.submitRestore r.unnamed) s ↔
      s.met? (.submitRestore r) ≠ none ∨ s.RefusedAlike r :=
  (submit_eq_iff (performRestore_toldByResult blank) rfl _ _).trans
    (or_congr Iff.rfl (result_performRestore_eq_iff blank))

end

end Cluster

end Simulated

/-! ## The two clients -/

/-- **A blank name is read in two ways.** Behind HTTP every call comes to what it comes to without
a name. On a simulated cluster a preparation never does, and every other call does exactly if a
fault stands in for it, if there is nothing to back up, or if the restore is refused in the same
words. -/
theorem blank_names_are_read_apart {r : SnapshotRequest} (blank : r.HasBlankName) :
    (∀ (ν : Type) (c : Config) (env : Http.Surroundings) (t : Http.Transport ν)
      (s : Http.State ν), (Http.client c env t).ReadsAlike r r.unnamed s) ∧
    ∀ (now : DateTime) (s : Simulated.Cluster),
      let answer := (Simulated.client now).answer
      answer (.prepareRestore r) s ≠ answer (.prepareRestore r.unnamed) s ∧
      (answer (.backup r) s = answer (.backup r.unnamed) s ↔
        s.met? (.backup r) ≠ none ∨ s.hasCollection r.collection.name = false) ∧
      (answer (.submitBackup r) s = answer (.submitBackup r.unnamed) s ↔
        s.met? (.submitBackup r) ≠ none ∨ s.hasCollection r.collection.name = false) ∧
      (answer (.restore r) s = answer (.restore r.unnamed) s ↔
        s.met? (.restore r) ≠ none ∨ s.RefusedAlike r) ∧
      (answer (.submitRestore r) s = answer (.submitRestore r.unnamed) s ↔
        s.met? (.submitRestore r) ≠ none ∨ s.RefusedAlike r) := by
  constructor
  · intro ν c env t s
    exact Http.readsAlike_unnamed c env t blank s
  · intro now s
    exact ⟨Simulated.Cluster.prepareRestore_unnamed_ne now blank,
      Simulated.Cluster.backup_unnamed_eq_iff now blank,
      Simulated.Cluster.submitBackup_unnamed_eq_iff now blank,
      Simulated.Cluster.restore_unnamed_eq_iff now blank,
      Simulated.Cluster.submitRestore_unnamed_eq_iff now blank⟩

/-- A request whose name is a single space. -/
def spaceNamed : SnapshotRequest := ⟨.default, none, some " "⟩

/-- A restore under a single space, where a backup named by the time is at hand. -/
theorem blank_names_are_read_apart_space :
    (Simulated.client Simulated.noon).answer (.restore spaceNamed)
        (Simulated.Cluster.default.addBackup none "snapshot.20240309140507123" "catalog") ≠
      (Simulated.client Simulated.noon).answer (.restore spaceNamed.unnamed)
        (Simulated.Cluster.default.addBackup none "snapshot.20240309140507123" "catalog") ∧
    (Http.client {} ⟨Simulated.noon, .empty⟩ fun _ s => (.error "refused", s)).answer
        (.backup spaceNamed) ⟨0, ()⟩ =
      (Http.client {} ⟨Simulated.noon, .empty⟩ fun _ s => (.error "refused", s)).answer
        (.backup spaceNamed.unnamed) ⟨0, ()⟩ := by
  have blank : spaceNamed.HasBlankName := ⟨" ", rfl, by decide⟩
  obtain ⟨http, simulated⟩ := blank_names_are_read_apart blank
  obtain ⟨-, -, -, restore, -⟩ := simulated Simulated.noon
    (Simulated.Cluster.default.addBackup none "snapshot.20240309140507123" "catalog")
  refine ⟨fun same => ?_, (http Unit {} ⟨Simulated.noon, .empty⟩ _ ⟨0, ()⟩).backup⟩
  rcases restore.mp same with met | ⟨-, -, present⟩ | ⟨-, -, named⟩
  · exact met (by decide)
  · exact absurd present (by decide)
  · exact absurd named (by decide)

end ClusterBackup
