/-
ClusterBackup.Proofs.BlankLocation — a location that is there, but blank.

A request may name a location of nothing but white space, and so may the
settings. Neither is a place where backups could lie. A blank location of
the request counts as none in either client. One of the settings does not:
a simulated cluster keeps backups under it as it is, a cluster behind HTTP
is asked with it, and a restore without a name is not refused but looks
for files there. So the clients behave as without a location exactly if
the settings have none at all.
-/
import ClusterBackup.Proofs.BlankName
import ClusterBackup.Proofs.Http.Meaning

namespace ClusterBackup

/-! ## Without a location -/

/-- The same request without a location. -/
def SnapshotRequest.unplaced (r : SnapshotRequest) : SnapshotRequest := { r with location := none }

@[simp] theorem SnapshotRequest.collection_unplaced (r : SnapshotRequest) :
    r.unplaced.collection = r.collection := rfl

@[simp] theorem SnapshotRequest.location_unplaced (r : SnapshotRequest) :
    r.unplaced.location = none := rfl

@[simp] theorem SnapshotRequest.backupName_unplaced (r : SnapshotRequest) :
    r.unplaced.backupName = r.backupName := rfl

/-- The same settings without a location. -/
def Config.unplaced (c : Config) : Config := { c with defaultLocation := none }

/-- Neither the request nor the settings have a location that is not blank. -/
structure Nowhere (c : Config) (r : SnapshotRequest) : Prop where
  request : ∀ location, r.location = some location → Text.isBlank location = true
  settings : ∀ location, c.defaultLocation = some location → Text.isBlank location = true

variable {c : Config} {r : SnapshotRequest}

theorem Config.unplaced_eq (none : c.defaultLocation = none) : c.unplaced = c := by
  cases c
  simp only at none
  rw [unplaced, none]

/-- What applies is the location of the settings, as it is. -/
theorem Nowhere.locationFor (h : Nowhere c r) : c.locationFor r.location = c.defaultLocation := by
  have blank : r.location.bind Text.nonBlank? = none := by
    cases given : r.location with
    | none => rfl
    | some location => simp [Text.nonBlank?, h.request location given]
  rw [Config.locationFor, blank]

theorem Config.locationFor_none (c : Config) : c.locationFor none = c.defaultLocation := rfl

/-- Two clients come to the same with two requests, whichever call carries them, as far as can be
seen of their states. A preparation hands the location on as it is. -/
structure Client.ComesTo {σ τ : Type} (client client' : Client σ) (r r' : SnapshotRequest)
    (s s' : σ) (view : σ → τ) : Prop where
  prepareRestore :
    (client.answer (.prepareRestore r) s).map (Except.map SnapshotRequest.unplaced) view =
      (client'.answer (.prepareRestore r') s').map (Except.map SnapshotRequest.unplaced) view
  backup : (client.answer (.backup r) s).map id view = (client'.answer (.backup r') s').map id view
  submitBackup : (client.answer (.submitBackup r) s).map id view =
    (client'.answer (.submitBackup r') s').map id view
  restore : (client.answer (.restore r) s).map id view =
    (client'.answer (.restore r') s').map id view
  submitRestore : (client.answer (.submitRestore r) s).map id view =
    (client'.answer (.submitRestore r') s').map id view

/-! ## On a simulated cluster -/

namespace Simulated.Cluster

/-- The same cluster under other settings. -/
def under (s : Cluster) (c : Config) : Cluster := { s with config := c }

variable {s : Cluster} {r' : SnapshotRequest}

/-- The place of backups is that of the settings, or the default one where they have none. -/
theorem locationKey_of_nowhere (h : Nowhere c r) (config : s.config = c) :
    s.locationKey r.location = c.defaultLocation.getD defaultLocation := by
  rw [locationKey, config, h.locationFor]

theorem locationKey_eq_iff (h : Nowhere c r) (config : s.config = c) :
    s.locationKey r.location = defaultLocation ↔ c.defaultLocation = none := by
  rw [locationKey_of_nowhere h config]
  cases given : c.defaultLocation with
  | none => simp
  | some location =>
    simp only [Option.getD_some, reduceCtorEq, iff_false]
    rintro rfl
    exact absurd (h.settings _ given) (by decide)

/-- A request matters to a backup by its collection, its name and the place that it means. -/
theorem performBackup_congr (now : DateTime) (collection : r.collection = r'.collection)
    (name : r.backupName = r'.backupName)
    (place : s.locationKey r.location = s.locationKey r'.location) :
    performBackup now r s = performBackup now r' s := by
  simp only [performBackup, collection, name, place]

theorem performRestore_congr (collection : r.collection = r'.collection)
    (name : r.backupName = r'.backupName)
    (place : s.locationKey r.location = s.locationKey r'.location) :
    performRestore r s = performRestore r' s := by
  simp only [performRestore, wantedBackup, collection, name, place]

theorem guarded_congr {act act' : Cluster → AdminResponse × Cluster} {kind : CallKind}
    {target : String} (same : act (s.enter kind target).2 = act' (s.enter kind target).2) :
    s.guarded kind target act = s.guarded kind target act' := by
  unfold guarded
  revert same
  rcases s.enter kind target with ⟨_ | fault, s'⟩
  · intro same
    change act s' = act' s' at same
    simp only [same]
  · exact fun _ => rfl

theorem submit_congr {act act' : Cluster → AdminResponse × Cluster} {kind : CallKind}
    {operation : Operation} (collection : r.collection = r'.collection)
    (same : act (s.enter kind r.collection.name).2 = act' (s.enter kind r.collection.name).2) :
    s.submit kind operation r act = s.submit kind operation r' act' := by
  unfold submit
  rw [← collection]
  revert same
  rcases s.enter kind r.collection.name with ⟨_ | fault, s'⟩
  · intro same
    change act s' = act' s' at same
    simp only [same]
  · exact fun _ => rfl

/-- Where the settings have no location, a blank one of the request changes nothing. -/
theorem comesTo_of_none (h : Nowhere c r) (config : s.config = c)
    (none : c.defaultLocation = none) (now : DateTime) :
    (client now).ComesTo (client now) r r.unplaced s (s.under c.unplaced) (·.under c.unplaced) := by
  have itself : s.under c.unplaced = s := by rw [Config.unplaced_eq none, ← config]; rfl
  have place (kind : CallKind) (target : String) :
      (s.enter kind target).2.locationKey r.location =
        (s.enter kind target).2.locationKey r.unplaced.location := by
    have config : (s.enter kind target).2.config = c := config
    rw [locationKey_of_nowhere h config, locationKey, config]
    rfl
  rw [itself]
  constructor
  · rfl
  · exact congrArg (Prod.map id _) (guarded_congr (performBackup_congr now rfl rfl (place _ _)))
  · exact congrArg (Prod.map id _) (submit_congr rfl (performBackup_congr now rfl rfl (place _ _)))
  · exact congrArg (Prod.map id _) (guarded_congr (performRestore_congr rfl rfl (place _ _)))
  · exact congrArg (Prod.map id _) (submit_congr rfl (performRestore_congr rfl rfl (place _ _)))

/-- An empty cluster says where it looked for a backup. -/
theorem answer_restore_empty (now : DateTime) (c : Config) (r : SnapshotRequest) :
    let s : Cluster := { config := c }
    (answer now (.restore r) s).1 = .ok (refused 400 "Backup not found"
      (s.locationKey r.location ++ "/" ++ r.backupName.getD "")) := by
  intro s
  rw [answer_of_faultless rfl]
  change Except.ok (performRestore r s).1 = _
  have missing : ¬ s.Available r := by
    rintro ⟨name, held, -⟩
    cases held
  rw [performRestore_of_unavailable missing]
  cases named : r.backupName with
  | none =>
    rw [wantedBackup, named]
    rfl
  | some name => rw [wantedBackup, named]

/-- The cluster behaves as without a location exactly if the settings have none. -/
theorem comesTo_iff (h : Nowhere c r) :
    (∀ (now : DateTime) (s : Cluster), s.config = c →
      (client now).ComesTo (client now) r r.unplaced s (s.under c.unplaced)
        (·.under c.unplaced)) ↔ c.defaultLocation = none := by
  refine ⟨fun same => ?_, fun none now s config => comesTo_of_none h config none now⟩
  have answers := congrArg Prod.fst (same noon { config := c } rfl).restore
  change (answer noon (.restore r) { config := c }).1 =
    (answer noon (.restore r.unplaced) { config := c.unplaced }).1 at answers
  rw [answer_restore_empty, answer_restore_empty] at answers
  refine (locationKey_eq_iff (s := { config := c }) h rfl).mp ?_
  have place : Cluster.locationKey { config := c.unplaced } none = defaultLocation := rfl
  simpa [refused, AdminResponse.failed, place] using answers

end Simulated.Cluster

/-! ## Behind HTTP -/

namespace Http

variable {env : Surroundings} {operation : Operation}

/-- The location of the settings is sent, as it is, and no other. -/
theorem location_mem_iff (h : Nowhere c r) {params : Params}
    (found : snapshotParams c env operation r = .ok params) {location : String} :
    ("location", location) ∈ params ↔ c.defaultLocation = some location := by
  obtain ⟨name, applied, -, located, rfl⟩ := snapshotParams_eq_ok_iff.mp found
  rw [located_iff, h.locationFor] at located
  rw [located]
  cases operation <;> cases applied <;> simp [locationPair, layoutParams, eq_comm]

/-- The parameters of a request fail as its name does. -/
theorem snapshotParams_eq_error_iff {e : Error} :
    snapshotParams c env operation r = .error e ↔ backupName c env operation r = .error e := by
  rw [snapshotParams]
  cases backupName c env operation r <;> simp [bind, Except.bind, pure, Except.pure]

/-- Only a restore without a name has none. -/
theorem of_backupName_eq_error {e : Error} (failed : backupName c env operation r = .error e) :
    operation = .restore ∧ r.backupName.bind Text.nonBlank? = none := by
  unfold backupName at failed
  split at failed
  · cases failed
  · next nameless =>
    cases operation with
    | backup => cases failed
    | restore => exact ⟨rfl, nameless⟩

/-- A restore without a name lacks a location exactly if the settings have none. -/
theorem backupName_eq_missing_iff (h : Nowhere c r)
    (nameless : r.backupName.bind Text.nonBlank? = none) :
    backupName c env .restore r = .error missingLocation ↔ c.defaultLocation = none := by
  cases given : c.defaultLocation with
  | none =>
    simp only [backupName, nameless, h.locationFor, given]
  | some location =>
    simp only [backupName, nameless, h.locationFor, given, reduceCtorEq, iff_false]
    intro failed
    -- The errors of looking for a backup have texts of their own.
    have other (text : String) :
        "invalid location pattern: " ++ text ≠
          "a restore without a backup name requires a location" ∧
        "no snapshot.<timestamp> backup found in " ++ text ≠
          "a restore without a backup name requires a location" := by
      constructor <;>
      · intro same
        have texts := congrArg String.toList same
        simp at texts
    cases read : Glob.parse? (Snapshot.patternAt location) with
    | error fault =>
      simp only [Snapshot.resolve?, read] at failed
      exact (other _).1 (Error.invalidArgument.inj (Except.error.inj failed))
    | ok g =>
      simp only [Snapshot.resolve?, read, bind, Except.bind] at failed
      split at failed
      · cases failed
      · exact (other _).2 (Error.invalidArgument.inj (Except.error.inj failed))

/-- Where the settings have no location, a blank one of the request changes nothing. -/
theorem backupName_unplaced (h : Nowhere c r) (none : c.defaultLocation = none) :
    backupName c env operation r = backupName c env operation r.unplaced := by
  simp only [backupName, h.locationFor, none, SnapshotRequest.location_unplaced,
    SnapshotRequest.backupName_unplaced, Config.locationFor_none]

theorem snapshotParams_unplaced (h : Nowhere c r) (none : c.defaultLocation = none) :
    snapshotParams c env operation r = snapshotParams c env operation r.unplaced := by
  simp only [snapshotParams, backupName_unplaced h none, h.locationFor,
    SnapshotRequest.location_unplaced, SnapshotRequest.collection_unplaced,
    Config.locationFor_none]

/-- The parameters are those without a location exactly if the settings have none. -/
theorem snapshotParams_unplaced_iff (h : Nowhere c r) :
    snapshotParams c env operation r = snapshotParams c.unplaced env operation r.unplaced ↔
      c.defaultLocation = none := by
  constructor
  · intro same
    cases given : c.defaultLocation with
    | none => rfl
    | some location =>
      exfalso
      have h' : Nowhere c.unplaced r.unplaced := ⟨nofun, nofun⟩
      cases found : snapshotParams c env operation r with
      | ok params =>
        have sent := (location_mem_iff h found).mpr given
        rw [found] at same
        cases (location_mem_iff h' same.symm).mp sent
      | error e =>
        rw [found] at same
        have failed := snapshotParams_eq_error_iff.mp found
        obtain ⟨rfl, nameless⟩ := of_backupName_eq_error failed
        have missing : backupName c.unplaced env .restore r.unplaced = .error missingLocation :=
          (backupName_eq_missing_iff h' nameless).mpr rfl
        rw [snapshotParams_eq_error_iff.mp same.symm] at missing
        rw [missing] at failed
        rw [(backupName_eq_missing_iff h nameless).mp failed] at given
        cases given
  · intro none
    rw [Config.unplaced_eq none, snapshotParams_unplaced h none]

/-! ### Calls -/

section

variable {ν : Type} (t : Transport ν) (s : State ν)

/-- Where the settings have no location, a client comes to the same without one. -/
theorem comesTo_of_none (h : Nowhere c r) (none : c.defaultLocation = none) :
    (client c env t).ComesTo (client c.unplaced env t) r r.unplaced s s id := by
  rw [Config.unplaced_eq none]
  constructor
  · simp only [client, answer, backupName_unplaced h none]
    cases backupName c env .restore r.unplaced <;> rfl
  · simp only [client, answer, runSnapshot, snapshotParams_unplaced h none]
  · simp only [client, answer, submitSnapshot, snapshotParams_unplaced h none,
      SnapshotRequest.collection_unplaced]
  · simp only [client, answer, runSnapshot, snapshotParams_unplaced h none]
  · simp only [client, answer, submitSnapshot, snapshotParams_unplaced h none,
      SnapshotRequest.collection_unplaced]

/-- The call is refused for want of a location, and nothing is asked of the network. -/
def Refuses (c : Config) (env : Surroundings) (t : Transport ν) (call : AdminCall) (s : State ν) :
    Prop :=
  answer c env t call s = (.error missingLocation, s)

theorem refuses_prepareRestore_iff :
    Refuses c env t (.prepareRestore r) s ↔
      backupName c env .restore r = .error missingLocation := by
  rw [Refuses, answer]
  cases backupName c env .restore r with
  | error e => simp [Except.map]
  | ok name => simp [Except.map]

/-- What comes back from the network is never the refusal. -/
theorem Plan.Harmless.ne_missing {α : Type} {p : Plan α} (harmless : p.Harmless) :
    p.carryOut t s ≠ (.error missingLocation, s) := by
  intro refused
  exact harmless.carryOut s _ (congrArg Prod.fst refused) rfl

theorem refuses_restore_iff :
    Refuses c env t (.restore r) s ↔ backupName c env .restore r = .error missingLocation := by
  rw [Refuses, answer_eq, plan, runPlan, ← snapshotParams_eq_error_iff]
  cases snapshotParams c env .restore r with
  | error e => simp [Plan.carryOut]
  | ok params =>
    have harmless : (Plan.posted (adminUrl c) params s.nextId AdminResponse.ofBody?).Harmless :=
      .posted _ _ _ blameless_response
    simpa using harmless.ne_missing t s

theorem refuses_submitRestore_iff :
    Refuses c env t (.submitRestore r) s ↔
      backupName c env .restore r = .error missingLocation := by
  rw [Refuses, answer_eq, plan, submitPlan, ← snapshotParams_eq_error_iff]
  cases snapshotParams c env .restore r with
  | error e => simp [Plan.carryOut]
  | ok params =>
    have harmless : (Plan.posted (adminUrl c)
        (params ++ [("async", jobId .restore r.collection env.now s.nextId)]) (s.nextId + 1)
        (submissionOf (jobId .restore r.collection env.now s.nextId))).Harmless :=
      .posted _ _ _ (blameless_submissionOf _)
    simpa using harmless.ne_missing t s

end

end Http

/-! ## The two clients -/

/-- **A blank location counts as none, unless it is that of the settings.** Let neither the request
nor the settings have a location that is not blank. On a simulated cluster the place of backups is
the default one, and every call comes to what it comes to without locations, exactly if the
settings have none. Behind HTTP the location of the settings is the only one that is sent; the
parameters are those without locations exactly if there is none in the settings, and then every
call comes to the same. A restore without a name is refused, whatever the files are and without a
request, exactly if there is none in the settings. -/
theorem blank_location_is_none_iff_unset {c : Config} {r : SnapshotRequest} (h : Nowhere c r) :
    (∀ s : Simulated.Cluster, s.config = c →
      (s.locationKey r.location = Simulated.defaultLocation ↔ c.defaultLocation = none)) ∧
    ((∀ (now : DateTime) (s : Simulated.Cluster), s.config = c →
      (Simulated.client now).ComesTo (Simulated.client now) r r.unplaced s (s.under c.unplaced)
        (·.under c.unplaced)) ↔ c.defaultLocation = none) ∧
    (∀ (env : Http.Surroundings) (operation : Operation),
      (∀ params, Http.snapshotParams c env operation r = .ok params → ∀ location,
        ("location", location) ∈ params ↔ c.defaultLocation = some location) ∧
      (Http.snapshotParams c env operation r =
        Http.snapshotParams c.unplaced env operation r.unplaced ↔ c.defaultLocation = none)) ∧
    ∀ {ν : Type} (env : Http.Surroundings) (t : Http.Transport ν) (s : Http.State ν),
      (c.defaultLocation = none →
        (Http.client c env t).ComesTo (Http.client c.unplaced env t) r r.unplaced s s id) ∧
      (r.backupName.bind Text.nonBlank? = none →
        (Http.Refuses c env t (.prepareRestore r) s ↔ c.defaultLocation = none) ∧
        (Http.Refuses c env t (.restore r) s ↔ c.defaultLocation = none) ∧
        (Http.Refuses c env t (.submitRestore r) s ↔ c.defaultLocation = none)) := by
  refine ⟨fun s config => Simulated.Cluster.locationKey_eq_iff h config,
    Simulated.Cluster.comesTo_iff h, fun env operation => ⟨fun params found location =>
      Http.location_mem_iff h found, Http.snapshotParams_unplaced_iff h⟩,
    fun env t s => ⟨Http.comesTo_of_none t s h, fun nameless => ?_⟩⟩
  have missing : Http.backupName c env .restore r = .error Http.missingLocation ↔
      c.defaultLocation = none := Http.backupName_eq_missing_iff h nameless
  exact ⟨(Http.refuses_prepareRestore_iff t s).trans missing,
    (Http.refuses_restore_iff t s).trans missing,
    (Http.refuses_submitRestore_iff t s).trans missing⟩

/-- Settings whose location is the empty text. -/
def emptyPlaced : Config := { defaultLocation := some "" }

/-- A restore of the latest backup, with a location of one space. -/
def spacePlaced : SnapshotRequest := ⟨.default, some " ", none⟩

/-- Surroundings in which a backup happens to lie where the client runs. -/
def backupAtHand : Http.Surroundings :=
  ⟨Simulated.noon, ⟨.directory [("snapshot.20240309140507123", .directory [])], []⟩⟩

/-- The request is refused under settings without a location. Under an empty one it gets the name
of the backup at hand, and a simulated cluster has another place for it. -/
theorem blank_location_is_none_iff_unset_empty :
    Http.Refuses {} backupAtHand (.unreachable "refused") (.prepareRestore spacePlaced) ⟨0, ()⟩ ∧
    ¬ Http.Refuses emptyPlaced backupAtHand (.unreachable "refused") (.prepareRestore spacePlaced)
      ⟨0, ()⟩ ∧
    Http.backupName emptyPlaced backupAtHand .restore spacePlaced =
      .ok "snapshot.20240309140507123" ∧
    Simulated.Cluster.locationKey { config := emptyPlaced } spacePlaced.location ≠
      Simulated.defaultLocation := by
  have blank : ∀ location, spacePlaced.location = some location →
      Text.isBlank location = true := by
    rintro _ ⟨⟩
    decide
  have unset : Nowhere {} spacePlaced := ⟨blank, nofun⟩
  have empty : Nowhere emptyPlaced spacePlaced := ⟨blank, by rintro _ ⟨⟩; decide⟩
  obtain ⟨-, -, -, refused⟩ := blank_location_is_none_iff_unset unset
  obtain ⟨place, -, -, found⟩ := blank_location_is_none_iff_unset empty
  refine ⟨((refused backupAtHand _ _).2 rfl).1.mpr rfl, ?_, by cbv, ?_⟩
  · intro refuses
    cases ((found backupAtHand _ _).2 rfl).1.mp refuses
  · intro same
    cases (place { config := emptyPlaced } rfl).mp same

end ClusterBackup
