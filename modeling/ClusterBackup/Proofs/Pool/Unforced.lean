/-
ClusterBackup.Proofs.Pool.Unforced — restores that are not forced clobber
nothing, whoever else is at work.

A restore looks whether its collection exists, and in its own time makes
it. What keeps it from replacing a collection that was made in between is
that the cluster looks again. So there is nothing to say about what a
caller has seen: `Lawful` says what it may still do, by whether it has
restored its collection by now. It may restore the collection if it has
not, and optimize it if it has, and it deletes none.

`Careful` is what a lawful move does to the collections, and `Orderly`
puts together what this comes to for all callers: whoever restored a
collection found none there, so nobody else has restored it before.
-/
import ClusterBackup.Proofs.Outcome
import ClusterBackup.Proofs.Pool
import ClusterBackup.Proofs.Simulated.Collections
import Mathlib.Logic.Function.Basic

namespace ClusterBackup

/-! ## What a caller may do -/

namespace Errand

/-- The errand is a restore of the collection. -/
def Restores (c : Collection) : Errand → Prop
  | restore spec => spec.collection = c
  | _ => False

theorem Restores.eq {e : Errand} {c d : Collection} (h : e.Restores c) (h' : e.Restores d) :
    c = d := by
  cases e with
  | restore spec => exact h.symm.trans h'
  | _ => cases h

/-- The errand is not a restore that is forced. -/
def Unforced : Errand → Prop
  | restore spec => spec.force = false
  | _ => True

/-- The calls that an errand may make. A restore may have restored its collection by now. -/
def Permits (e : Errand) (won : Bool) : AdminCall → Prop
  | .prepareRestore _ | .collectionExists _ | .queryStatus _ => True
  | .backup _ | .submitBackup _ => ∀ c, ¬ e.Restores c
  | .restore r | .submitRestore r => e.Restores r.collection ∧ won = false
  | .optimize c => e.Restores c ∧ won = true
  | .delete _ => False

/-- What an errand may end in. A restore at once is a success only if it restored its collection. -/
def Ends (won : Bool) (o : Outcome) : Errand → Prop
  | restore spec => spec.mode = .sync → o.success = true → won = true
  | _ => True

end Errand

/-- What the answer to a call can mean for whether the collection was restored. The answer to a job
that was queued does not tell. -/
def Follows (won : Bool) : (call : AdminCall) → call.Answer → Bool → Prop
  | .prepareRestore r, q, won' => q = r ∧ won' = won
  | .restore _, r, won' => won' = r.isSuccess
  | .submitRestore _, _, _ => True
  | .collectionExists _, _, won' | .delete _, _, won' | .backup _, _, won'
  | .submitBackup _, _, won' | .optimize _, _, won' | .queryStatus _, _, won' => won' = won

/-- Workflows that make only calls that their errand permits, as long as calls are answered. -/
inductive Lawful (e : Errand) : Bool → Workflow Outcome → Prop where
  | done {won : Bool} {o : Outcome} (ends : e.Ends won o) : Lawful e won (.done o)
  | tell {won : Bool} (report : Report) {next : Workflow Outcome} (rest : Lawful e won next) :
      Lawful e won (.tell report next)
  | ask {won : Bool} {call : AdminCall} {next : Except Error call.Answer → Workflow Outcome}
      (permitted : e.Permits won call)
      (rest : ∀ answer won', Follows won call answer won' → Lawful e won' (next (.ok answer))) :
      Lawful e won (.ask call next)

theorem Lawful.reported {e : Errand} {won : Bool} {w : Workflow Outcome} (h : Lawful e won w) :
    Lawful e won w.reported := by
  induction h with
  | done ends => exact .tell _ (.done ends)
  | tell report _ ih => exact .tell report ih
  | ask permitted _ ih => exact .ask permitted ih

theorem lawful_carryOut (spec : RestoreSpec) :
    Lawful (.restore spec) false (Restore.carryOut spec spec.request) := by
  unfold Restore.carryOut
  cases mode : spec.mode with
  | async =>
    refine .ask ⟨rfl, rfl⟩ fun answer won _ => .done fun sync => ?_
    rw [mode] at sync
    contradiction
  | sync =>
    refine .ask ⟨rfl, rfl⟩ fun r won follows => ?_
    obtain rfl : won = r.isSuccess := follows
    simp only [Workflow.bind_eq, Workflow.done_bind, Outcome.success_ofResponse]
    split
    -- Whatever comes of the optimization, the outcome stays a success.
    · next success => exact .ask ⟨rfl, success⟩ fun _ _ same => .done fun _ _ => same.trans success
    · exact .done fun _ success => (Outcome.success_ofResponse ..).symm.trans success

theorem lawful_execute {spec : RestoreSpec} (unforced : spec.force = false) :
    Lawful (.restore spec) false (Restore.execute spec) := by
  refine .ask trivial fun q won follows => ?_
  obtain ⟨rfl, rfl⟩ : q = spec.request ∧ won = false := follows
  refine .ask trivial fun found won follows => ?_
  obtain rfl : won = false := follows
  cases found with
  | false => exact lawful_carryOut spec
  | true =>
    simp only [Workflow.bind_eq, Workflow.done_bind, unforced]
    exact .done fun _ success => absurd success Bool.false_ne_true

theorem lawful_backup (spec : BackupSpec) : Lawful (.backup spec) false (Backup.execute spec) := by
  unfold Backup.execute
  cases spec.mode with
  | sync => exact .ask (fun _ => id) fun _ _ _ => .done trivial
  | async => exact .ask (fun _ => id) fun _ _ _ => .done trivial

theorem lawful_query (operation : Operation) (id : String) :
    Lawful (.query operation id) false (JobStatus.query operation id) := by
  unfold JobStatus.query JobStatus.fetch
  simp only
  split
  · exact .done trivial
  · refine .ask trivial fun raw won _ => ?_
    simp only [Workflow.done_bind]
    cases JobStatus.ofRaw? (Text.trim id) raw with
    | ok status => exact .done trivial
    | error e => exact .done trivial

/-- Every errand is lawful, except for restores that are forced. -/
theorem Errand.Unforced.lawful {e : Errand} (h : e.Unforced) : Lawful e false e.workflow := by
  cases e with
  | restore spec => exact lawful_execute h
  | backup spec => exact lawful_backup spec
  | query operation id => exact lawful_query operation id
  | refuse e => exact .done trivial

theorem Entry.lawful {e : Entry} (unforced : e.errand.Unforced) :
    Lawful e.errand false e.workflow := by
  rw [e.workflow_eq]
  exact unforced.lawful.reported

namespace Simulated

open Cluster

/-! ## What a lawful call does -/

/-- What a caller may do to the collections, by whether it has restored its own. -/
structure Careful (e : Errand) (won won' : Bool) (s s' : Cluster) : Prop where
  stays : ∀ name, s.hasCollection name = true → s'.hasCollection name = true
  /-- No collection changes, but for the one that the caller restored itself. -/
  unchanged : ∀ name l, s.collections.get? name = some l →
    (∀ c, e.Restores c → c.name = name → won = false) → s'.collections.get? name = some l
  lasting : won = true → won' = true
  /-- The caller restores its collection where there was none. -/
  fresh : won = false → won' = true → ∀ c, e.Restores c →
    s.hasCollection c.name = false ∧ s'.hasCollection c.name = true

theorem Careful.of_same {e : Errand} {won : Bool} {s s' : Cluster}
    (same : s'.collections = s.collections) : Careful e won won s s' where
  stays name present := by rwa [hasCollection, same]
  unchanged name l found _ := by rwa [same]
  lasting := id
  fresh no yes := by rw [no] at yes; contradiction

theorem Careful.congr {e : Errand} {won won' : Bool} {s s' s'' : Cluster}
    (h : Careful e won won' s s') (same : s''.collections = s'.collections) :
    Careful e won won' s s'' where
  stays name present := by
    rw [hasCollection, same]
    exact h.stays name present
  unchanged name l found others := by
    rw [same]
    exact h.unchanged name l found others
  lasting := h.lasting
  fresh no yes c mine := by
    rw [hasCollection, hasCollection, same]
    exact h.fresh no yes c mine

theorem careful_performRestore {e : Errand} {r : SnapshotRequest} (mine : e.Restores r.collection)
    (s : Cluster) :
    Careful e false (performRestore r s).1.isSuccess s (performRestore r s).2 := by
  cases restored_performRestore r s with
  | refused failure state =>
    rw [failure, state]
    exact .of_same rfl
  | made absent success state =>
    rw [success, state]
    constructor
    case stays =>
      intro name present
      rw [hasCollection_createCollection, present, Bool.or_true]
    case unchanged =>
      -- This is where the second look counts: the collection that is made was not there.
      intro name l found _
      have other : name ≠ r.collection.name := by
        rintro rfl
        rw [absent] at found
        contradiction
      rwa [get?_createCollection, if_neg other]
    case lasting => exact fun _ => rfl
    case fresh =>
      intro _ _ c also
      rw [also.eq mine, hasCollection_createCollection, hasCollection_eq_false_iff]
      exact ⟨absent, by simp⟩

theorem careful_performOptimize {e : Errand} {c : Collection} (mine : e.Restores c) (s : Cluster) :
    Careful e true true s (performOptimize c s).2 where
  stays name present := by rwa [hasCollection_performOptimize]
  unchanged name l found others := by
    have other : name ≠ c.name := by
      rintro rfl
      cases others c mine rfl
    rwa [get?_performOptimize, if_neg other]
  lasting := id
  fresh no := nomatch no

/-- A call that an errand permits is careful, and a job that it queues for a restore tells whether
the collection was restored. -/
theorem careful_effect {e : Errand} {won : Bool} {call : AdminCall} (permitted : e.Permits won call)
    (now : DateTime) {s : Cluster} (faultless : s.faults = []) :
    ∃ won', Follows won call (effect now call s).1 won' ∧
      Careful e won won' s (effect now call s).2 ∧
      ∀ c, e.Restores c → ∀ id result, s.queued? (.call now call) = some (id, result) →
        result.isSuccess = true → won' = true := by
  cases call with
  | delete c => cases permitted
  | prepareRestore r => exact ⟨won, ⟨rfl, rfl⟩, .of_same rfl, fun _ _ _ _ none => nomatch none⟩
  | collectionExists c => exact ⟨won, rfl, .of_same rfl, fun _ _ _ _ none => nomatch none⟩
  | queryStatus id =>
    exact ⟨won, rfl, .of_same (collections_poll id s), fun _ _ _ _ none => nomatch none⟩
  | backup r =>
    exact ⟨won, rfl, .of_same (collections_performBackup now r s),
      fun _ _ _ _ none => nomatch none⟩
  | submitBackup r =>
    exact ⟨won, rfl, .of_same (collections_performBackup now r s),
      fun c mine => absurd mine (permitted c)⟩
  | restore r =>
    obtain ⟨mine, rfl⟩ := permitted
    exact ⟨_, rfl, careful_performRestore mine s, fun _ _ _ _ none => nomatch none⟩
  | submitRestore r =>
    obtain ⟨mine, rfl⟩ := permitted
    refine ⟨(performRestore r s).1.isSuccess, trivial,
      (careful_performRestore mine s).congr rfl, ?_⟩
    intro c _ id result queued success
    rw [queued?_submitRestore now (met?_of_faultless faultless _), Option.some.injEq,
      Prod.mk.injEq] at queued
    rwa [queued.2]
  | optimize c =>
    obtain ⟨mine, rfl⟩ := permitted
    exact ⟨true, rfl, careful_performOptimize mine s, fun _ _ _ _ none => nomatch none⟩

/-! ## One caller -/

namespace Party

/-- A caller that is on a lawful way. A job that was queued for a restore tells whether it restored
its collection. -/
structure Lawful (p : Party) (won : Bool) : Prop where
  rest : ClusterBackup.Lawful p.entry.errand won p.rest
  job : ∀ c, p.entry.errand.Restores c → ∀ id result, p.job = some (id, result) →
    result.isSuccess = true → won = true

theorem lawful_ofEntry {e : Entry} (unforced : e.errand.Unforced) : (ofEntry e).Lawful false where
  rest := e.lawful unforced
  job _ _ _ _ none := nomatch none

/-- A lawful move is careful. -/
theorem Lawful.move {p : Party} {won : Bool} (h : p.Lawful won) (now : DateTime) {s : Cluster}
    (faultless : s.faults = []) :
    ∃ won', (p.move now s).1.Lawful won' ∧
      Careful p.entry.errand won won' s (p.move now s).2 ∧ (p.move now s).2.faults = [] := by
  obtain ⟨entry, rest, job⟩ := p
  obtain ⟨lawful, job_told⟩ := h
  simp only at lawful job_told
  cases lawful with
  | done ends => exact ⟨won, ⟨.done ends, job_told⟩, .of_same rfl, faultless⟩
  | tell report lawful => exact ⟨won, ⟨lawful, job_told⟩, .of_same rfl, faultless⟩
  | ask permitted goes_on =>
    obtain ⟨won', follows, careful, told⟩ := careful_effect permitted now faultless
    simp only [Party.move, Workflow.step, client, answer_of_faultless faultless]
    refine ⟨won', ⟨goes_on _ won' follows, fun c mine id result queued success => ?_⟩,
      careful.congr rfl, rfl⟩
    rcases Option.or_eq_some_iff.mp queued with new | ⟨-, old⟩
    · exact told c mine id result new success
    · exact careful.lasting (job_told c mine id result old success)

/-- What the caller was told at the end. -/
def outcome? (p : Party) : Option Outcome :=
  match p.rest with
  | .done o => some o
  | _ => none

/-- The caller's restore of a collection took effect: at once, and it came back as a success, or
queued, and the job succeeded. -/
def tookEffect (name : String) (p : Party) : Bool :=
  match p.entry.errand with
  | .restore spec =>
    spec.collection.name == name &&
      match spec.mode with
      | .sync => p.outcome?.any (·.success)
      | .async => p.job.any (·.2.isSuccess)
  | _ => false

/-- A restore took effect only if it restored its collection. -/
theorem Lawful.won_of_tookEffect {p : Party} {won : Bool} (h : p.Lawful won) {name : String}
    (effect : p.tookEffect name = true) :
    won = true ∧ ∃ c, p.entry.errand.Restores c ∧ c.name = name := by
  unfold tookEffect at effect
  split at effect
  · next spec errand =>
    rw [Bool.and_eq_true, beq_iff_eq] at effect
    obtain ⟨target, success⟩ := effect
    have mine : p.entry.errand.Restores spec.collection := by
      rw [errand]
      rfl
    refine ⟨?_, spec.collection, mine, target⟩
    split at success
    · next sync =>
      obtain ⟨o, ended, success⟩ := (Option.any_eq_true _ _).mp success
      have rest := h.rest
      unfold outcome? at ended
      split at ended
      · next last =>
        obtain rfl := Option.some.inj ended
        rw [errand, last] at rest
        obtain ⟨ends⟩ := rest
        exact ends sync success
      · contradiction
    · obtain ⟨⟨id, result⟩, job, success⟩ := (Option.any_eq_true _ _).mp success
      exact h.job _ mine id result job success
  · contradiction

end Party

/-! ## All callers -/

/-- By now, a caller has restored the collection of this name. -/
def HasRestored (entries : List Entry) (won : Nat → Bool) (i : Nat) (name : String) : Prop :=
  won i = true ∧ ∃ e c, entries[i]? = some e ∧ e.errand.Restores c ∧ c.name = name

/-- What there was at the start is there unchanged, and what was restored since was restored by one
caller alone. -/
structure Orderly (start : Cluster) (entries : List Entry) (won : Nat → Bool) (pool : Pool) :
    Prop where
  faultless : pool.cluster.faults = []
  sameEntries : pool.parties.map (·.entry) = entries
  kept : ∀ name l, start.collections.get? name = some l →
    pool.cluster.collections.get? name = some l
  lawful : ∀ (i : Nat) (p : Party), pool.parties[i]? = some p → p.Lawful (won i)
  restored : ∀ i name, HasRestored entries won i name →
    start.hasCollection name = false ∧ pool.cluster.hasCollection name = true
  single : ∀ i j name, HasRestored entries won i name → HasRestored entries won j name → i = j

section

variable {start : Cluster} {entries : List Entry} {won : Nat → Bool} {pool : Pool}

theorem orderly_start (faultless : start.faults = [])
    (unforced : ∀ e ∈ entries, e.errand.Unforced) :
    Orderly start entries (fun _ => false) (.start start entries) where
  faultless := faultless
  sameEntries := by
    rw [Pool.start, List.map_map]
    exact List.map_id entries
  kept _ _ found := found
  lawful i p found := by
    simp only [Pool.start, List.getElem?_map, Option.map_eq_some_iff] at found
    obtain ⟨e, inside, rfl⟩ := found
    exact Party.lawful_ofEntry (unforced e (List.mem_of_getElem? inside))
  restored _ _ mine := nomatch mine.1
  single _ _ _ mine := nomatch mine.1

namespace Orderly

theorem entry (h : Orderly start entries won pool) {i : Nat} {p : Party}
    (inside : pool.parties[i]? = some p) : entries[i]? = some p.entry := by
  rw [← h.sameEntries, List.getElem?_map, inside, Option.map_some]

/-- What is not there was not there at the start. -/
theorem absent (h : Orderly start entries won pool) {name : String}
    (missing : pool.cluster.hasCollection name = false) : start.hasCollection name = false := by
  rw [hasCollection_eq_false_iff, Option.eq_none_iff_forall_ne_some] at missing ⊢
  exact fun l found => missing l (h.kept name l found)

/-- Nobody has restored what was there at the start. -/
theorem not_restored (h : Orderly start entries won pool) {name : String} {l : Layout}
    (present : start.collections.get? name = some l) (i : Nat) :
    ¬ HasRestored entries won i name := by
  intro mine
  have absent := (h.restored i name mine).1
  rw [hasCollection_eq_false_iff, present] at absent
  contradiction

end Orderly

/-- Whoever has restored a collection after a move had restored it before, or restored it just now,
where there was none. -/
theorem HasRestored.before {i : Nat} {e : Entry} {wins : Bool} {s s' : Cluster}
    (mine : entries[i]? = some e) (careful : Careful e.errand (won i) wins s s') {j : Nat}
    {name : String} (h : HasRestored entries (Function.update won i wins) j name) :
    HasRestored entries won j name ∨
      j = i ∧ s.hasCollection name = false ∧ s'.hasCollection name = true := by
  obtain ⟨wins_j, e', c, theirs, restores, rfl⟩ := h
  by_cases same : j = i
  · subst same
    obtain rfl : e = e' := Option.some.inj (mine.symm.trans theirs)
    rw [Function.update_self] at wins_j
    cases before : won j with
    | true => exact .inl ⟨before, e, c, mine, restores, rfl⟩
    | false => exact .inr ⟨rfl, careful.fresh before wins_j c restores⟩
  · rw [Function.update_of_ne same] at wins_j
    exact .inl ⟨wins_j, e', c, theirs, restores, rfl⟩

/-- Every turn keeps the order. -/
theorem Orderly.move (h : Orderly start entries won pool) (turn : DateTime × Nat) :
    ∃ won', Orderly start entries won' (pool.move turn) := by
  obtain ⟨now, i⟩ := turn
  cases found : pool.parties[i]? with
  | none => exact ⟨won, by rwa [Pool.move, found]⟩
  | some p =>
    obtain ⟨wins, lawful, careful, faultless⟩ := (h.lawful i p found).move now h.faultless
    have mine := h.entry found
    rw [← Pool.cluster_move found] at careful faultless
    refine ⟨Function.update won i wins, ?_⟩
    constructor
    case faultless => exact faultless
    case sameEntries => exact (pool.entries_move (now, i)).trans h.sameEntries
    case kept =>
      intro name l present
      refine careful.unchanged name l (h.kept name l present) fun c restores target => ?_
      have not_yet := h.not_restored present i
      rw [← Bool.not_eq_true]
      exact fun already => not_yet ⟨already, p.entry, c, mine, restores, target⟩
    case lawful =>
      intro j q inside
      rcases Pool.getElem?_move found inside with ⟨rfl, rfl⟩ | ⟨other, inside⟩
      · rwa [Function.update_self]
      · rw [Function.update_of_ne other]
        exact h.lawful j q inside
    case restored =>
      intro j name restored
      rcases restored.before mine careful with old | ⟨-, absent, present⟩
      · obtain ⟨absent, present⟩ := h.restored j name old
        exact ⟨absent, careful.stays name present⟩
      · exact ⟨h.absent absent, present⟩
    case single =>
      -- What is restored just now was not there, so nobody has restored it before.
      intro j k name restored restored'
      rcases restored.before mine careful with old | ⟨rfl, absent, -⟩
      · rcases restored'.before mine careful with old' | ⟨rfl, absent, -⟩
        · exact h.single j k name old old'
        · rw [(h.restored j name old).2] at absent
          contradiction
      · rcases restored'.before mine careful with old' | ⟨rfl, -, -⟩
        · rw [(h.restored k name old').2] at absent
          contradiction
        · rfl

theorem Orderly.after (h : Orderly start entries won pool) (turns : List (DateTime × Nat)) :
    ∃ won', Orderly start entries won' (pool.after turns) := by
  induction turns generalizing won pool with
  | nil => exact ⟨won, h⟩
  | cons turn turns ih =>
    obtain ⟨won', next⟩ := h.move turn
    exact ih next

end

/-- **Restores that are not forced clobber nothing, whatever the turns are.** On a cluster without
faults every collection of the start stays as it was, and of all restores of a collection at most
one takes effect, and none if the collection was there at the start. -/
theorem unforced_restores_clobber_nothing {start : Cluster} (faultless : start.faults = [])
    {entries : List Entry} (unforced : ∀ e ∈ entries, e.errand.Unforced)
    (turns : List (DateTime × Nat)) :
    let pool := (Pool.start start entries).after turns
    pool.parties.map (·.entry) = entries ∧
    (∀ name l, start.collections.get? name = some l →
      pool.cluster.collections.get? name = some l) ∧
    ∀ (i : Nat) (p : Party) (name : String), pool.parties[i]? = some p →
      p.tookEffect name = true → start.hasCollection name = false ∧
        ∀ (j : Nat) (q : Party), pool.parties[j]? = some q → q.tookEffect name = true → i = j := by
  intro pool
  obtain ⟨won, orderly⟩ := (orderly_start faultless unforced).after turns
  have restored : ∀ (i : Nat) (p : Party) (name : String), pool.parties[i]? = some p →
      p.tookEffect name = true → HasRestored entries won i name := by
    intro i p name inside effect
    obtain ⟨wins, c, restores, target⟩ := (orderly.lawful i p inside).won_of_tookEffect effect
    exact ⟨wins, p.entry, c, orderly.entry inside, restores, target⟩
  refine ⟨orderly.sameEntries, orderly.kept, fun i p name inside effect => ?_⟩
  have mine := restored i p name inside effect
  refine ⟨(orderly.restored i name mine).1, fun j q inside' effect' => ?_⟩
  exact orderly.single i j name mine (restored j q name inside' effect')

/-- A restore that two callers want, one at once and the other queued. -/
def wanted : RestoreSpec := { collection := .default, backupName := some "nightly" }

/-- Each of the two finds no collection before the other makes it. -/
def race : Pool :=
  (Pool.start (Cluster.after { config := .simulated } [.addBackup none "nightly" "catalog"])
    [.restore wanted, .restore { wanted with mode := .async }]).after
      ([0, 1, 0, 1, 0, 1, 0, 1, 0].map (noon, ·))

/-- The one who comes first restores the collection, and nobody else does. -/
theorem unforced_restores_clobber_nothing_race :
    race.parties.map (·.tookEffect "catalog") = [true, false] ∧
      ∀ (j : Nat) (q : Party), race.parties[j]? = some q → q.tookEffect "catalog" = true →
        0 = j := by
  refine ⟨by decide +kernel, ?_⟩
  have first : race.parties[0]?.any (·.tookEffect "catalog") = true := by decide +kernel
  obtain ⟨p, inside, effect⟩ := (Option.any_eq_true _ _).mp first
  have unforced : ∀ e ∈ [Entry.restore wanted, .restore { wanted with mode := .async }],
      e.errand.Unforced := by
    simp [Entry.errand, Errand.Unforced, wanted]
  exact ((unforced_restores_clobber_nothing rfl unforced _).2.2 0 p "catalog" inside effect).2

end Simulated

end ClusterBackup
