/-
ClusterBackup.Proofs.Table — what a table holds after a change.
-/
import ClusterBackup.Table

namespace ClusterBackup.Table

variable {α : Type}

@[simp] theorem get?_nil (n : String) : get? ([] : Table α) n = none := rfl

/-- A table is searched from its front. -/
theorem get?_cons (m : String) (v : α) (rest : Table α) (n : String) :
    get? ((m, v) :: rest) n = if n = m then some v else get? rest n := by
  by_cases found : n = m
  · simp [get?, found]
  · simp [get?, List.lookup_cons, found, beq_eq_false_iff_ne.mpr found]

/-- The names of a table are those that have a value. -/
theorem mem_names_iff {t : Table α} {n : String} : n ∈ t.names ↔ t.get? n ≠ none := by
  induction t with
  | nil => simp [names]
  | cons entry rest ih =>
    obtain ⟨m, v⟩ := entry
    rw [get?_cons, names, List.map_cons, List.mem_cons, ← names, ih]
    by_cases found : n = m
    · simp [found]
    · simp [found]

/-- Removing a name takes its value away, and no other. -/
theorem get?_erase (t : Table α) (name n : String) :
    (t.erase name).get? n = if n = name then none else t.get? n := by
  induction t with
  | nil => simp [erase]
  | cons entry rest ih =>
    obtain ⟨m, v⟩ := entry
    simp only [erase, List.filter_cons, bne_iff_ne, ne_eq] at ih ⊢
    rw [get?_cons]
    by_cases removed : m = name
    · subst removed
      rw [if_neg (by simp), ih]
      split <;> rfl
    · rw [if_pos removed, get?_cons, ih]
      by_cases found : n = m
      · subst found
        simp [removed]
      · simp [found]

/-- A name that was given a value has it, and no other name changes. -/
theorem get?_insert (t : Table α) (name : String) (value : α) (n : String) :
    (t.insert name value).get? n = if n = name then some value else t.get? n := by
  induction t with
  | nil => rw [insert, get?_cons]
  | cons entry rest ih =>
    obtain ⟨m, v⟩ := entry
    rw [insert, get?_cons]
    by_cases replaced : m = name
    · subst replaced
      rw [if_pos rfl, get?_cons]
      split <;> rfl
    · rw [if_neg replaced]
      split
      · rw [get?_cons, get?_cons]
      · rw [get?_cons, ih]
        by_cases found : n = m
        · subst found
          simp [replaced]
        · simp [found]

end ClusterBackup.Table
