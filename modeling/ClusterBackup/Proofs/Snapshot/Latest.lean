/-
ClusterBackup.Proofs.Snapshot.Latest — what the latest of several backups is.

The latest backup is one of those that were looked at, it is named by a
moment, and no other one by a later moment. A name of that kind starts
with letters, so it is never blank: the name that a restore settles on can
always be sent.
-/
import ClusterBackup.Snapshot

namespace ClusterBackup.Snapshot

/-- The later of a best name and all others is the best one or one of the others. -/
theorem mem_of_foldl_later {best : Option (DateTime × String)} {xs : List (DateTime × String)}
    {p : DateTime × String} (h : xs.foldl later best = some p) : p ∈ xs ∨ best = some p := by
  induction xs generalizing best with
  | nil => exact .inr h
  | cons x rest ih =>
    rcases ih h with found | found
    · exact .inl (List.mem_cons_of_mem x found)
    · cases best with
      | none =>
        simp only [later, Option.some.injEq] at found
        exact .inl (found ▸ List.mem_cons_self)
      | some b =>
        simp only [later] at found
        split at found
        · rw [Option.some.injEq] at found
          exact .inl (found ▸ List.mem_cons_self)
        · exact .inr found

/-- The later of two is no earlier than either of them. -/
theorem later_eq_some (best : Option (DateTime × String)) (next : DateTime × String) :
    ∃ b, later best next = some b ∧ next.1.rank ≤ b.1.rank ∧
      ∀ q, best = some q → q.1.rank ≤ b.1.rank := by
  cases best with
  | none => exact ⟨next, rfl, Int.le_refl _, nofun⟩
  | some b =>
    by_cases earlier : b.1.rank ≤ next.1.rank
    · refine ⟨next, if_pos earlier, Int.le_refl _, fun q same => ?_⟩
      rwa [← Option.some.inj same]
    · refine ⟨b, if_neg earlier, by omega, fun q same => ?_⟩
      exact Option.some.inj same ▸ Int.le_refl _

/-- The later of a best name and all others is no earlier than any of them. -/
theorem rank_le_of_foldl_later {best : Option (DateTime × String)} {xs : List (DateTime × String)}
    {p : DateTime × String} (h : xs.foldl later best = some p) {q : DateTime × String}
    (among : q ∈ xs ∨ best = some q) : q.1.rank ≤ p.1.rank := by
  induction xs generalizing best q with
  | nil =>
    rcases among with inside | given
    · cases inside
    · rw [given, List.foldl_nil, Option.some.injEq] at h
      exact h ▸ Int.le_refl _
  | cons x rest ih =>
    obtain ⟨b, found, later_x, later_best⟩ := later_eq_some best x
    have after : b.1.rank ≤ p.1.rank := ih h (.inr found)
    rcases among with inside | given
    · rcases List.mem_cons.mp inside with rfl | inside
      · exact Int.le_trans later_x after
      · exact ih h (.inl inside)
    · exact Int.le_trans (later_best q given) after

theorem exists_foldl_later (b : DateTime × String) (xs : List (DateTime × String)) :
    ∃ p, xs.foldl later (some b) = some p := by
  induction xs generalizing b with
  | nil => exact ⟨b, rfl⟩
  | cons x rest ih =>
    obtain ⟨b', found, -⟩ := later_eq_some (some b) x
    rw [List.foldl_cons, found]
    exact ih b'

/-- The names that are compared, with the moments that they tell. -/
theorem mem_told_iff {names : List String} {t : DateTime} {n : String} :
    (t, n) ∈ names.filterMap (fun n => (timestamp? n).map (·, n)) ↔
      n ∈ names ∧ timestamp? n = some t := by
  rw [List.mem_filterMap]
  constructor
  · rintro ⟨m, inside, told⟩
    obtain ⟨u, told, same⟩ := Option.map_eq_some_iff.mp told
    cases same
    exact ⟨inside, told⟩
  · rintro ⟨inside, told⟩
    exact ⟨n, inside, Option.map_eq_some_iff.mpr ⟨t, told, rfl⟩⟩

/-- The latest name is among the names and tells a moment, and no other name tells a later one. -/
theorem mem_of_latest? {names : List String} {n : String} (h : latest? names = some n) :
    n ∈ names ∧ ∃ t, timestamp? n = some t ∧
      ∀ m ∈ names, ∀ u, timestamp? m = some u → u.rank ≤ t.rank := by
  rw [latest?, Option.map_eq_some_iff] at h
  obtain ⟨⟨t, m⟩, found, rfl⟩ := h
  rcases mem_of_foldl_later found with inside | none
  · obtain ⟨member, told⟩ := mem_told_iff.mp inside
    refine ⟨member, t, told, fun m other u told' => ?_⟩
    exact rank_le_of_foldl_later (q := (u, _)) found (.inl (mem_told_iff.mpr ⟨other, told'⟩))
  · cases none

/-- There is a latest name as soon as one of the names tells a moment. -/
theorem exists_latest? {names : List String} {n : String} {t : DateTime} (inside : n ∈ names)
    (told : timestamp? n = some t) : ∃ m, latest? names = some m := by
  have listed : (t, n) ∈ names.filterMap fun n => (timestamp? n).map (·, n) :=
    mem_told_iff.mpr ⟨inside, told⟩
  rw [latest?]
  cases compared : names.filterMap fun n => (timestamp? n).map (·, n) with
  | nil =>
    rw [compared] at listed
    cases listed
  | cons x rest =>
    obtain ⟨p, found⟩ := exists_foldl_later x rest
    refine ⟨p.2, ?_⟩
    rw [List.foldl_cons, later, found, Option.map_some]

/-- A name that tells a later moment than all others is the latest one. -/
theorem latest?_eq_some {names : List String} {n : String} {t : DateTime} (inside : n ∈ names)
    (told : timestamp? n = some t)
    (last : ∀ m ∈ names, m ≠ n → ∀ u, timestamp? m = some u → u.rank < t.rank) :
    latest? names = some n := by
  obtain ⟨m, found⟩ := exists_latest? inside told
  obtain ⟨member, u, told', noEarlier⟩ := mem_of_latest? found
  have noLater : t.rank ≤ u.rank := noEarlier n inside t told
  have same : m = n := by
    refine Decidable.byContradiction fun other => ?_
    have earlier : u.rank < t.rank := last m member other u told'
    omega
  rw [found, same]

/-- A name that tells a moment is not blank. -/
theorem isBlank_of_timestamp? {n : String} {t : DateTime} (h : timestamp? n = some t) :
    Text.isBlank n = false := by
  rw [timestamp?, Option.bind_eq_some_iff] at h
  obtain ⟨rest, started, -⟩ := h
  rw [Text.isBlank]
  cases cs : n.toList with
  | nil => simp [cs, namePrefix, afterPrefix?] at started
  | cons c cs' =>
    by_cases first : 's' = c
    · subst first
      simp [Text.isSpace]
    · simp [cs, namePrefix, afterPrefix?, first] at started

end ClusterBackup.Snapshot
