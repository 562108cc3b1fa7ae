/-
ClusterBackup.Proofs.Simulated.Collections — what becomes of the
collections of a simulated cluster.

A restore either makes its collection, where there was none, or does
nothing at all, a deletion takes its collection away, and an optimization
marks its collection, if there is one. A backup, a poll, and to be queued
are of no concern to the collections.
-/
import ClusterBackup.Proofs.Simulated.Effect
import ClusterBackup.Proofs.Table

namespace ClusterBackup.Simulated.Cluster

/-- A collection that is there is one that has a layout. -/
theorem hasCollection_eq_false_iff {s : Cluster} {name : String} :
    s.hasCollection name = false ↔ s.collections.get? name = none := by
  simp [hasCollection, Table.contains]

theorem get?_createCollection (s : Cluster) (name n : String) :
    (s.createCollection name).collections.get? n =
      if n = name then some s.newLayout else s.collections.get? n :=
  Table.get?_insert s.collections name s.newLayout n

theorem hasCollection_createCollection (s : Cluster) (name n : String) :
    (s.createCollection name).hasCollection n = (n == name || s.hasCollection n) := by
  rw [hasCollection, Table.contains, get?_createCollection]
  by_cases same : n = name
  · simp [same]
  · simp [same, hasCollection, Table.contains]

/-- What a restore comes to. -/
inductive Restored (r : SnapshotRequest) (s : Cluster) (done : AdminResponse × Cluster) : Prop where
  | made (absent : s.collections.get? r.collection.name = none) (success : done.1.isSuccess = true)
      (state : done.2 = s.createCollection r.collection.name)
  | refused (failure : done.1.isSuccess = false) (state : done.2 = s)

/-- A restore makes its collection where there was none, or does nothing. -/
theorem restored_performRestore (r : SnapshotRequest) (s : Cluster) :
    Restored r s (performRestore r s) := by
  unfold performRestore
  simp only
  split
  · exact .refused rfl rfl
  · split
    · split
      · exact .refused rfl rfl
      · next absent =>
        exact .made (hasCollection_eq_false_iff.mp (eq_false_of_ne_true absent)) rfl rfl
    · exact .refused rfl rfl

/-- After a deletion there is no collection of the name, and every other one is as it was. -/
theorem get?_performDelete (c : Collection) (s : Cluster) (n : String) :
    (performDelete c s).2.collections.get? n =
      if n = c.name then none else s.collections.get? n := by
  cases present : s.hasCollection c.name with
  | true =>
    simp only [performDelete, present, if_true]
    exact Table.get?_erase s.collections c.name n
  | false =>
    simp only [performDelete, present, Bool.false_eq_true, if_false]
    split
    · next same => rw [same, hasCollection_eq_false_iff.mp present]
    · rfl

/-- An optimization marks its collection. -/
theorem get?_performOptimize (c : Collection) (s : Cluster) (n : String) :
    (performOptimize c s).2.collections.get? n =
      if n = c.name then (s.collections.get? n).map ({ · with optimized := true })
      else s.collections.get? n := by
  cases found : s.collections.get? c.name with
  | none =>
    simp only [performOptimize, found]
    split
    · next same => rw [same, found, Option.map_none]
    · rfl
  | some l =>
    simp only [performOptimize, found, Table.get?_insert]
    split
    · next same => rw [same, found, Option.map_some]
    · rfl

theorem hasCollection_performOptimize (c : Collection) (s : Cluster) (n : String) :
    (performOptimize c s).2.hasCollection n = s.hasCollection n := by
  simp only [hasCollection, Table.contains, get?_performOptimize]
  split <;> simp

theorem collections_performBackup (now : DateTime) (r : SnapshotRequest) (s : Cluster) :
    (performBackup now r s).2.collections = s.collections := by
  unfold performBackup
  simp only
  split
  · split <;> rfl
  · rfl

theorem collections_poll (id : String) (s : Cluster) :
    (s.poll id).2.collections = s.collections := by
  unfold poll
  split <;> rfl

end ClusterBackup.Simulated.Cluster
