/-
ClusterBackup.Proofs.Http.Meaning — administrative requests say what is
meant.

`Means` says in words of its own what a call is meant to ask for: pairs of
names and values in their order, with the location that applies, the
layout where a collection is restored, and the id where a job is queued.
Under a base URL, the client asks for exactly that. Whatever the texts in
a pair are, they come back when the query is read, and they reach neither
another pair nor the path.
-/
import ClusterBackup.Proofs.Http.Requests
import ClusterBackup.Proofs.Http.Upfront
import ClusterBackup.Proofs.Url.Base

namespace ClusterBackup.Http

/-! ## What is meant -/

section

variable (c : Config) (env : Surroundings) (number : Nat)

/-- The location that applies to a request: its own unless that is blank, or else the one in the
settings. -/
inductive Located (r : SnapshotRequest) : Option String → Prop where
  | own {location : String} (given : r.location.bind Text.nonBlank? = some location) :
      Located r (some location)
  | standing (without : r.location.bind Text.nonBlank? = none) : Located r c.defaultLocation

/-- The name that applies to a request: its own unless that is blank. Without one, a backup is named
after the moment, and a restore takes the latest backup at its location. -/
inductive Named (r : SnapshotRequest) : Operation → String → Prop where
  | own {operation : Operation} {name : String}
      (given : r.backupName.bind Text.nonBlank? = some name) : Named r operation name
  | moment (without : r.backupName.bind Text.nonBlank? = none) :
      Named r .backup (Snapshot.name env.now)
  | latest {location name : String} (without : r.backupName.bind Text.nonBlank? = none)
      (located : Located c r (some location))
      (found : Snapshot.resolve? env.files location = .ok (some name)) : Named r .restore name

/-- The pair for a location, if one applies. -/
def locationPair (location : Option String) : Params :=
  (location.map fun location => ("location", location)).toList

/-- What a call is meant to ask for; `number` is the next one for an id. -/
inductive Means : AdminCall → Params → Prop where
  | list (collection : Collection) :
      Means (.collectionExists collection) [("action", "LIST"), ("wt", "json")]
  | delete (collection : Collection) :
      Means (.delete collection)
        [("action", "DELETE"), ("name", collection.name), ("wt", "json")]
  | status (requestId : String) :
      Means (.queryStatus requestId)
        [("action", "REQUESTSTATUS"), ("requestid", requestId), ("wt", "json")]
  | backup {r : SnapshotRequest} {name : String} {location : Option String}
      (named : Named c env r .backup name) (located : Located c r location) :
      Means (.backup r)
        ([("action", "BACKUP"), ("name", name), ("collection", r.collection.name)]
          ++ locationPair location ++ [("wt", "json")])
  | submitBackup {r : SnapshotRequest} {name : String} {location : Option String}
      (named : Named c env r .backup name) (located : Located c r location) :
      Means (.submitBackup r)
        ([("action", "BACKUP"), ("name", name), ("collection", r.collection.name)]
          ++ locationPair location
          ++ [("async", jobId .backup r.collection env.now number), ("wt", "json")])
  | restore {r : SnapshotRequest} {name : String} {location : Option String}
      (named : Named c env r .restore name) (located : Located c r location) :
      Means (.restore r)
        ([("action", "RESTORE"), ("name", name), ("collection", r.collection.name)]
          ++ locationPair location
          ++ [("replicationFactor", toString c.replicationFactor.toNat),
            ("maxShardsPerNode", toString c.maxShardsPerNode.toNat), ("wt", "json")])
  | submitRestore {r : SnapshotRequest} {name : String} {location : Option String}
      (named : Named c env r .restore name) (located : Located c r location) :
      Means (.submitRestore r)
        ([("action", "RESTORE"), ("name", name), ("collection", r.collection.name)]
          ++ locationPair location
          ++ [("replicationFactor", toString c.replicationFactor.toNat),
            ("maxShardsPerNode", toString c.maxShardsPerNode.toNat),
            ("async", jobId .restore r.collection env.now number), ("wt", "json")])

end

/-! ## Names and locations that apply -/

section

variable {c : Config} {env : Surroundings} {r : SnapshotRequest}

theorem located_iff {location : Option String} :
    Located c r location ↔ c.locationFor r.location = location := by
  constructor
  · rintro (given | without)
    · rw [Config.locationFor, given]
    · rw [Config.locationFor, without]
  · rintro rfl
    unfold Config.locationFor
    split
    · next given => exact .own given
    · next without => exact .standing without

theorem named_iff {operation : Operation} {name : String} :
    Named c env r operation name ↔ backupName c env operation r = .ok name := by
  constructor
  · intro named
    cases named with
    | own given => simp only [backupName, given]
    | moment without => simp only [backupName, without]
    | latest without located found =>
      simp only [backupName, without, located_iff.mp located, found]
      rfl
  · intro found
    unfold backupName at found
    split at found
    · next given =>
      obtain rfl := Except.ok.inj found
      exact .own given
    · next without =>
      cases operation with
      | backup =>
        obtain rfl := Except.ok.inj found
        exact .moment without
      | restore =>
        simp only at found
        split at found
        · cases found
        · next location located =>
          cases resolved : Snapshot.resolve? env.files location with
          | error e =>
            rw [resolved] at found
            cases found
          | ok latest =>
            rw [resolved] at found
            cases latest with
            | none => cases found
            | some name' =>
              obtain rfl := Except.ok.inj found
              exact .latest without (located_iff.mpr located) resolved

/-- The parameters of a backup or a restore are found where its name is. -/
theorem snapshotParams_eq_ok_iff {operation : Operation} {params : Params} :
    snapshotParams c env operation r = .ok params ↔ ∃ name location,
      Named c env r operation name ∧ Located c r location ∧
        params = [("action", actionName operation), ("name", name),
          ("collection", r.collection.name)] ++ locationPair location
          ++ layoutParams c operation := by
  simp only [named_iff, located_iff, exists_and_left, exists_eq_left', locationPair]
  rw [snapshotParams]
  cases backupName c env operation r with
  | error e => simp [bind, Except.bind]
  | ok name => simp [bind, Except.bind, pure, Except.pure, eq_comm]

end

/-! ## What is asked for -/

section

variable {c : Config} {env : Surroundings} {number : Nat}

/-- The URL of an administrative request with pairs as its query. -/
def adminRequest? (c : Config) (pairs : Params) : Option Url :=
  (Url.parse? (adminUrl c)).map (·.withQuery pairs)

theorem url?_runPlan_eq_some_iff {operation : Operation} {r : SnapshotRequest} {u : Url} :
    (runPlan c env number operation r).url? = some u ↔ ∃ params,
      snapshotParams c env operation r = .ok params ∧
        adminRequest? c (params ++ [formatParam]) = some u := by
  unfold runPlan
  cases snapshotParams c env operation r with
  | error e => simp [Plan.url?]
  | ok params => simp [Plan.url?, requestUrl?, adminRequest?]

theorem url?_submitPlan_eq_some_iff {operation : Operation} {r : SnapshotRequest} {u : Url} :
    (submitPlan c env number operation r).url? = some u ↔ ∃ params,
      snapshotParams c env operation r = .ok params ∧
        adminRequest? c
          (params ++ [("async", jobId operation r.collection env.now number), formatParam]) =
            some u := by
  unfold submitPlan
  cases snapshotParams c env operation r with
  | error e => simp [Plan.url?]
  | ok params => simp [Plan.url?, requestUrl?, adminRequest?]

/-- A call that is no optimization asks for what is meant. -/
theorem asked?_eq_some_iff {call : AdminCall}
    (administrative : ∀ collection, call ≠ .optimize collection) {u : Url} :
    asked? c env number call = some u ↔
      ∃ pairs, Means c env number call pairs ∧ adminRequest? c pairs = some u := by
  constructor
  · intro asked
    cases call with
    | prepareRestore r => cases asked
    | collectionExists collection => exact ⟨_, .list collection, asked⟩
    | delete collection => exact ⟨_, .delete collection, asked⟩
    | optimize collection => exact absurd rfl (administrative collection)
    | queryStatus requestId => exact ⟨_, .status requestId, asked⟩
    | backup r =>
      obtain ⟨_, found, asked⟩ := url?_runPlan_eq_some_iff.mp asked
      obtain ⟨name, location, named, located, rfl⟩ := snapshotParams_eq_ok_iff.mp found
      refine ⟨_, .backup named located, ?_⟩
      simpa [actionName, layoutParams, formatParam] using asked
    | submitBackup r =>
      obtain ⟨_, found, asked⟩ := url?_submitPlan_eq_some_iff.mp asked
      obtain ⟨name, location, named, located, rfl⟩ := snapshotParams_eq_ok_iff.mp found
      refine ⟨_, .submitBackup named located, ?_⟩
      simpa [actionName, layoutParams, formatParam] using asked
    | restore r =>
      obtain ⟨_, found, asked⟩ := url?_runPlan_eq_some_iff.mp asked
      obtain ⟨name, location, named, located, rfl⟩ := snapshotParams_eq_ok_iff.mp found
      refine ⟨_, .restore named located, ?_⟩
      simpa [actionName, layoutParams, formatParam] using asked
    | submitRestore r =>
      obtain ⟨_, found, asked⟩ := url?_submitPlan_eq_some_iff.mp asked
      obtain ⟨name, location, named, located, rfl⟩ := snapshotParams_eq_ok_iff.mp found
      refine ⟨_, .submitRestore named located, ?_⟩
      simpa [actionName, layoutParams, formatParam] using asked
  · rintro ⟨pairs, means, asked⟩
    cases means with
    | list | delete | status => exact asked
    | backup named located =>
      refine url?_runPlan_eq_some_iff.mpr ⟨_, snapshotParams_eq_ok_iff.mpr
        ⟨_, _, named, located, rfl⟩, ?_⟩
      simpa [actionName, layoutParams, formatParam] using asked
    | submitBackup named located =>
      refine url?_submitPlan_eq_some_iff.mpr ⟨_, snapshotParams_eq_ok_iff.mpr
        ⟨_, _, named, located, rfl⟩, ?_⟩
      simpa [actionName, layoutParams, formatParam] using asked
    | restore named located =>
      refine url?_runPlan_eq_some_iff.mpr ⟨_, snapshotParams_eq_ok_iff.mpr
        ⟨_, _, named, located, rfl⟩, ?_⟩
      simpa [actionName, layoutParams, formatParam] using asked
    | submitRestore named located =>
      refine url?_submitPlan_eq_some_iff.mpr ⟨_, snapshotParams_eq_ok_iff.mpr
        ⟨_, _, named, located, rfl⟩, ?_⟩
      simpa [actionName, layoutParams, formatParam] using asked

/-! ## Under a base URL -/

variable {b : BaseUrl}

theorem toList_baseUrl (written : c.baseUrl = b.text) : (baseUrl c).toList = b.front := by
  rw [baseUrl, String.toList_ofList, written, b.dropSlashes_text]

/-- Administrative requests go behind the directory of the base URL. -/
theorem adminRequest?_eq (written : c.baseUrl = b.text) (pairs : Params) :
    adminRequest? c pairs =
      b.address?.map fun address => b.under address ["admin", "collections"] pairs := by
  have url : adminUrl c = String.ofList (b.front ++ '/' :: "admin/collections".toList) := by
    rw [← String.toList_inj]
    simp [adminUrl, toList_baseUrl written]
  have segments : Url.walk (Url.descend [] b.parts)
      (Text.splitWhere Url.isSlash "admin/collections".toList) =
        b.directory ++ ["admin", "collections"] := by
    change Url.walk _ ["admin".toList, "collections".toList] = _
    have admin : Url.enter (Url.descend [] b.parts) "admin".toList =
        "admin" :: Url.descend [] b.parts := rfl
    rw [Url.walk_cons (List.cons_ne_nil _ _), admin, Url.walk_singleton (by decide) (by decide),
      List.reverse_cons, List.append_assoc]
    rfl
  rw [adminRequest?, url, b.parse?_path_behind (by simp) (by simp [Url.isControlOrSpace]), segments,
    Option.map_map]
  rfl

end

/-- **Administrative requests say what is meant.** A base URL with a slash behind it leads to a
directory. A call that is no optimization asks for one URL, which is behind that directory, if the
host can be made out and the call is meant to ask for something; and the pairs that are read back
off the query are those that are meant. A run sends the requests of its calls, in their order, and
nothing else. -/
theorem admin_requests_say_what_is_meant {c : Config} {b : BaseUrl} (written : c.baseUrl = b.text) :
    (∀ address, b.address? = some address → Url.parse? (baseUrl c ++ "/") =
      some ⟨b.secure, address.1, address.2, b.directory ++ [""], none⟩) ∧
    (∀ (env : Surroundings) (number : Nat) (call : AdminCall),
      (∀ collection, call ≠ .optimize collection) → ∀ u : Url,
        asked? c env number call = some u ↔ ∃ address pairs, b.address? = some address ∧
          Means c env number call pairs ∧ u = b.under address ["admin", "collections"] pairs ∧
            u.pairs = pairs) ∧
    ∀ {ν α : Type} (t : Transport ν) (env : Nat → Surroundings) (w : Workflow α)
      (s : State (ν × List Url)) (n : Nat),
      let client := Client.overTime fun n => client c (env n) t.recording
      (w.run client (s, n)).state.1.network.2 = s.network.2 ++
        (w.visits client (s, n)).filterMap fun v => asked? c (env v.2.2) v.2.1.nextId v.1 := by
  refine ⟨?_, ?_, fun t env w s n => requests_of_run t c env w s n⟩
  · intro address known
    have slash : baseUrl c ++ "/" = String.ofList (b.front ++ ['/']) := by
      rw [← String.toList_inj]
      simp [toList_baseUrl written]
    rw [slash, b.parse?_slash, known]
    rfl
  · intro env number call administrative u
    rw [asked?_eq_some_iff administrative]
    constructor
    · rintro ⟨pairs, means, asked⟩
      rw [adminRequest?_eq written, Option.map_eq_some_iff] at asked
      obtain ⟨address, known, rfl⟩ := asked
      exact ⟨address, pairs, known, means, rfl, b.pairs_under _ _ _⟩
    · rintro ⟨address, pairs, known, means, rfl, -⟩
      exact ⟨pairs, means, by rw [adminRequest?_eq written, known]; rfl⟩

/-- A base URL with slashes at its end. -/
def localBase : BaseUrl where
  secure := false
  authority := "localhost:8983".toList
  path := "/solr//".toList
  hosted := by decide
  divided := by decide
  rooted := by simp
  plain := by simp [Text.isSpace]

/-- A backup under a name that looks like a part of a query is asked for under that name. -/
theorem admin_requests_say_what_is_meant_ampersand :
    let c : Config := { baseUrl := "http://localhost:8983/solr//" }
    let r : SnapshotRequest := ⟨.default, some "/data", some "nightly&async=1"⟩
    ∃ u : Url, asked? c ⟨⟨2024, 1, 1, 12, 0, 0, 0⟩, .empty⟩ 7 (.submitBackup r) = some u ∧
      u.segments = ["solr", "admin", "collections"] ∧
      u.pairs = [("action", "BACKUP"), ("name", "nightly&async=1"), ("collection", "catalog"),
        ("location", "/data"), ("async", "backup-catalog-20240101120000000-7"), ("wt", "json")] := by
  intro c r
  have written : c.baseUrl = localBase.text := by decide
  have named : Named c ⟨⟨2024, 1, 1, 12, 0, 0, 0⟩, .empty⟩ r .backup "nightly&async=1" :=
    .own (by decide)
  have located : Located c r (some "/data") := .own (by decide)
  refine ⟨_, ((admin_requests_say_what_is_meant written).2.1 _ 7 (.submitBackup r) nofun _).mpr
    ⟨("localhost", some 8983), _, by decide, .submitBackup named located, rfl,
      BaseUrl.pairs_under _ _ _ _⟩, by decide, ?_⟩
  rw [BaseUrl.pairs_under]
  decide

end ClusterBackup.Http
