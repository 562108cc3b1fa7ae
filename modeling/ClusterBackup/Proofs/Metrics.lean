/-
ClusterBackup.Proofs.Metrics — counters count.

A counter keeps its label values in their order, each once, so adding to
some of them leaves the count of all others alone (`Counter.count_add`).
`Tallied` says that the counters are the census of a list of outcomes:
recording an outcome adds it to the list, and reading a count, which may
bring new labels into the text, adds nothing.
-/
import ClusterBackup.Metrics
import Mathlib.Data.List.Lex
import Mathlib.Data.String.Basic

namespace ClusterBackup

/-! ## Counters -/

namespace Counter

/-- The label values stand in their order, each once. -/
def Sorted (c : Counter) : Prop := c.Pairwise (·.1 < ·.1)

/-- All that was counted. -/
def total : Counter → Nat
  | [] => 0
  | (_, n) :: rest => n + total rest

@[simp] theorem count_nil (labels : List String) : count [] labels = 0 := rfl

theorem count_cons (l : List String) (m : Nat) (rest : Counter) (labels : List String) :
    count ((l, m) :: rest) labels = if labels = l then m else count rest labels := by
  by_cases found : labels = l
  · simp [count, found]
  · simp [count, List.lookup_cons, found, beq_eq_false_iff_ne.mpr found]

/-- Label values that come before all others were not counted. -/
theorem count_of_forall_lt {c : Counter} {labels : List String}
    (before : ∀ entry ∈ c, labels < entry.1) : c.count labels = 0 := by
  induction c with
  | nil => rfl
  | cons entry rest ih =>
    have ne : labels ≠ entry.1 := (before entry List.mem_cons_self).ne
    rw [count_cons, if_neg ne]
    exact ih fun entry inside => before entry (List.mem_cons_of_mem _ inside)

theorem mem_add {c : Counter} {labels : List String} {n : Nat} {entry : List String × Nat}
    (inside : entry ∈ c.add labels n) : entry.1 = labels ∨ ∃ old ∈ c, old.1 = entry.1 := by
  induction c with
  | nil => exact .inl (congrArg Prod.fst (List.mem_singleton.mp inside))
  | cons first rest ih =>
    obtain ⟨l, m⟩ := first
    rw [add] at inside
    split at inside
    · next same =>
      rcases List.mem_cons.mp inside with rfl | later
      · exact .inl same
      · exact .inr ⟨entry, List.mem_cons_of_mem _ later, rfl⟩
    · split at inside
      · rcases List.mem_cons.mp inside with rfl | later
        · exact .inl rfl
        · exact .inr ⟨entry, later, rfl⟩
      · rcases List.mem_cons.mp inside with rfl | later
        · exact .inr ⟨(l, m), List.mem_cons_self, rfl⟩
        · rcases ih later with new | ⟨old, known, same⟩
          · exact .inl new
          · exact .inr ⟨old, List.mem_cons_of_mem _ known, same⟩

/-- Adding keeps the order. -/
theorem Sorted.add {c : Counter} (h : c.Sorted) (labels : List String) (n : Nat) :
    (c.add labels n).Sorted := by
  induction c with
  | nil => exact List.pairwise_singleton _ _
  | cons first rest ih =>
    obtain ⟨l, m⟩ := first
    obtain ⟨least, sorted⟩ := List.pairwise_cons.mp h
    rw [Counter.add]
    split
    · exact List.pairwise_cons.mpr ⟨least, sorted⟩
    · next other =>
      split
      · next before =>
        refine List.pairwise_cons.mpr ⟨fun entry inside => ?_, h⟩
        rcases List.mem_cons.mp inside with rfl | later
        · exact before
        · exact before.trans (least entry later)
      · next after =>
        refine List.pairwise_cons.mpr ⟨fun entry inside => ?_, ih sorted⟩
        rcases mem_add inside with new | ⟨old, known, same⟩
        · rw [new]
          exact lt_of_le_of_ne (not_lt.mp after) other
        · rw [← same]
          exact least old known

/-- Adding counts for the label values that it names, and for no others. -/
theorem count_add {c : Counter} (h : c.Sorted) (labels : List String) (n : Nat)
    (l : List String) :
    (c.add labels n).count l = c.count l + if l = labels then n else 0 := by
  induction c with
  | nil => rw [add, count_cons, count_nil, Nat.zero_add]
  | cons first rest ih =>
    obtain ⟨k, m⟩ := first
    obtain ⟨least, sorted⟩ := List.pairwise_cons.mp h
    rw [add]
    split
    · next same =>
      subst same
      rw [count_cons, count_cons]
      split
      · rfl
      · rfl
    · next other =>
      split
      · next before =>
        -- The label values come before all that were counted, so their count was zero.
        rw [count_cons]
        split
        · next same =>
          subst same
          have new : count ((k, m) :: rest) l = 0 := count_of_forall_lt fun entry inside => by
            rcases List.mem_cons.mp inside with rfl | later
            · exact before
            · exact before.trans (least entry later)
          rw [new, Nat.zero_add]
        · rfl
      · rw [count_cons, count_cons, ih sorted]
        split
        · next same => rw [if_neg (same ▸ other), Nat.add_zero]
        · rfl

theorem total_add (c : Counter) (labels : List String) (n : Nat) :
    (c.add labels n).total = c.total + n := by
  induction c with
  | nil => simp [add, total]
  | cons first rest ih =>
    obtain ⟨l, m⟩ := first
    rw [add]
    split
    · simp only [total]
      omega
    · split
      · simp only [total]
        omega
      · simp only [total, ih]
        omega

end Counter

/-! ## Labels -/

/-- The result under which an outcome is to be counted: success, or the kind of its failure. -/
def Outcome.countsAs (o : Outcome) (result : String) : Bool :=
  if o.success then result == "success" else o.kind.any (·.label == result)

/-- An outcome that is a success, or has a kind, is labelled with what it counts as, and with that
alone. -/
theorem Outcome.countsAs_iff {o : Outcome} (known : o.success = true ∨ o.kind ≠ none)
    (result : String) : o.countsAs result = true ↔ result = Metrics.resultLabel o := by
  unfold countsAs Metrics.resultLabel
  split
  · exact beq_iff_eq
  · next failure =>
    obtain ⟨kind, found⟩ := Option.ne_none_iff_exists'.mp (known.resolve_left failure)
    rw [found, Option.any_some, beq_iff_eq]
    exact eq_comm

theorem Operation.label_inj {a b : Operation} : a.label = b.label ↔ a = b := by
  cases a <;> cases b <;> decide

theorem JobState.label_inj {a b : JobState} : a.label = b.label ↔ a = b := by
  cases a <;> cases b <;> decide

/-! ## Outcomes and their counters -/

namespace Metrics

/-- The counters are those of a list of outcomes. -/
structure Tallied (m : Metrics) (counted : List (Operation × Outcome)) : Prop where
  sorted : m.operations.Sorted
  sortedQueries : m.statusQueries.Sorted
  operations : ∀ operation result, m.operations.count [operation.label, result] =
    counted.countP fun p => p.1 == operation && p.2.countsAs result
  statusQueries : ∀ state : JobState, m.statusQueries.count [state.label] =
    counted.countP fun p => p.2.jobStatus.any (·.state == state)
  total : m.operations.total = counted.length

/-- Nothing was counted at first. -/
theorem tallied_nil : Tallied {} [] where
  sorted := List.Pairwise.nil
  sortedQueries := List.Pairwise.nil
  operations _ _ := rfl
  statusQueries _ := rfl
  total := rfl

namespace Tallied

variable {m : Metrics} {counted : List (Operation × Outcome)}

/-- Recording an outcome counts it. -/
theorem record (h : m.Tallied counted) (operation : Operation) {o : Outcome}
    (known : o.success = true ∨ o.kind ≠ none) :
    (m.record operation o).Tallied (counted ++ [(operation, o)]) where
  sorted := h.sorted.add _ _
  sortedQueries := by
    unfold Metrics.record
    split
    · exact h.sortedQueries.add _ _
    · exact h.sortedQueries
  operations op result := by
    rw [Metrics.record, Counter.count_add h.sorted, h.operations, List.countP_append,
      List.countP_singleton]
    refine congrArg (_ + ·) (if_congr ?_ rfl rfl)
    rw [Bool.and_eq_true, beq_iff_eq, Outcome.countsAs_iff known, List.cons.injEq,
      Operation.label_inj, List.cons.injEq, eq_comm]
    simp
  statusQueries state := by
    rw [List.countP_append, List.countP_singleton, ← h.statusQueries, Metrics.record]
    cases found : o.jobStatus with
    | none => rfl
    | some status =>
      simp only [Counter.count_add h.sortedQueries, Option.any_some, beq_iff_eq]
      refine congrArg (_ + ·) (if_congr ?_ rfl rfl)
      rw [List.cons.injEq, JobState.label_inj, eq_comm]
      simp
  total := by
    rw [Metrics.record, Counter.total_add, h.total, List.length_append]
    rfl

/-- Reading a count counts nothing. -/
theorem operationCount (h : m.Tallied counted) (operation : Operation) (result : String) :
    (m.operationCount operation result).2.Tallied counted where
  sorted := h.sorted.add _ _
  sortedQueries := h.sortedQueries
  operations op label := by
    rw [Metrics.operationCount, Counter.count_add h.sorted, ite_self, Nat.add_zero, h.operations]
  statusQueries := h.statusQueries
  total := by rw [Metrics.operationCount, Counter.total_add, Nat.add_zero, h.total]

end Tallied

end Metrics

end ClusterBackup
