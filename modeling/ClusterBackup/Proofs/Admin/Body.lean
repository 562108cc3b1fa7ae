/-
ClusterBackup.Proofs.Admin.Body — what is read out of the body of an
answer.

A value lists failures or it does not (`listOf_eq_nil_iff`), and of an
array each entry is known by its place: the entries are the items, where
all of them are pairs, and otherwise every other item with the one after
it, which the last may lack. A body is a response exactly if its status is
a whole number of 32 bits with sign; every other body is an answer that is
not understood, whatever else it holds.
-/
import ClusterBackup.Admin.Json
import Mathlib.Tactic.ByContra

namespace ClusterBackup

/-! ## Lists of failures -/

namespace FailureDetail

/-- A value that lists nothing: there is none, or it is no list, or there is nothing in it. -/
inductive ListsNothing : Option Json → Prop where
  | absent : ListsNothing none
  | null : ListsNothing (some .null)
  | bool (b : Bool) : ListsNothing (some (.bool b))
  | number (n : Json.Number) : ListsNothing (some (.number n))
  | string (s : String) : ListsNothing (some (.string s))
  | noItems : ListsNothing (some (.array []))
  | noMembers : ListsNothing (some (.object []))

/-- The item is a name and a value. -/
def IsPair (item : Json) : Prop := ∃ name value, item = .array [name, value]

theorem ofPair?_eq_none_iff (item : Json) : ofPair? item = none ↔ ¬ IsPair item := by
  unfold ofPair? IsPair
  split
  · simp
  · next other =>
    refine ⟨fun _ => ?_, fun _ => rfl⟩
    rintro ⟨name, value, rfl⟩
    exact other name value rfl

instance (item : Json) : Decidable (IsPair item) :=
  decidable_of_iff (¬ ofPair? item = none) (by rw [ofPair?_eq_none_iff, not_not])

/-- Items are taken for pairs if each of them is one. -/
theorem mapM_ofPair?_of_pairs {items : List Json} (pairs : ∀ item ∈ items, IsPair item) :
    ∃ es, items.mapM ofPair? = some es ∧ ∀ i : Nat, es[i]? = items[i]?.bind ofPair? := by
  induction items with
  | nil => exact ⟨[], rfl, fun i => rfl⟩
  | cons item rest ih =>
    obtain ⟨es, read, entries⟩ := ih fun other inside => pairs other (List.mem_cons_of_mem _ inside)
    obtain ⟨name, value, rfl⟩ := pairs item List.mem_cons_self
    refine ⟨ofValues name value :: es, by simp [ofPair?, read], fun i => ?_⟩
    cases i with
    | zero => rfl
    | succ i => exact entries i

theorem mapM_ofPair?_of_not_pairs {items : List Json} (mixed : ¬ ∀ item ∈ items, IsPair item) :
    items.mapM ofPair? = none := by
  induction items with
  | nil => exact absurd (fun _ inside => nomatch inside) mixed
  | cons item rest ih =>
    rw [List.forall_mem_cons, not_and] at mixed
    cases first : ofPair? item with
    | none => simp [first]
    | some e =>
      have pair : IsPair item := by
        by_contra other
        rw [(ofPair?_eq_none_iff item).mpr other] at first
        cases first
      simp [first, ih (mixed pair)]

/-- Names and values in turn: the `i`-th entry is of the item `2 i` and of the one after it, if
there is one. -/
theorem getElem?_inTurn (items : List Json) (i : Nat) :
    (inTurn items)[i]? =
      items[2 * i]?.map fun name => ⟨textOf name, (items[2 * i + 1]?.map textOf).getD ""⟩ := by
  induction items using inTurn.induct generalizing i with
  | case1 => rfl
  | case2 name =>
    cases i with
    | zero => rfl
    | succ i => simp [inTurn, Nat.mul_succ]
  | case3 name value rest ih =>
    cases i with
    | zero => rfl
    | succ i => simpa [inTurn, Nat.mul_succ] using ih i

/-- The entries of an array, one by one. -/
theorem getElem?_listOf_array (items : List Json) (i : Nat) :
    (listOf (some (.array items)))[i]? =
      if ∀ item ∈ items, IsPair item then items[i]?.bind ofPair?
      else items[2 * i]?.map fun name =>
        ⟨textOf name, (items[2 * i + 1]?.map textOf).getD ""⟩ := by
  by_cases pairs : ∀ item ∈ items, IsPair item
  · obtain ⟨es, read, entries⟩ := mapM_ofPair?_of_pairs pairs
    rw [if_pos pairs, listOf, read]
    exact entries i
  · rw [if_neg pairs, listOf, mapM_ofPair?_of_not_pairs pairs]
    exact getElem?_inTurn items i

/-- An array lists a failure as soon as there is something in it. -/
theorem listOf_array_eq_nil_iff (items : List Json) :
    listOf (some (.array items)) = [] ↔ items = [] := by
  constructor
  · intro nothing
    have first := getElem?_listOf_array items 0
    rw [nothing] at first
    cases items with
    | nil => rfl
    | cons item rest =>
      split at first
      · next pairs =>
        obtain ⟨name, value, rfl⟩ := pairs item List.mem_cons_self
        cases first
      · cases first
  · rintro rfl
    rfl

/-- Exactly what lists nothing is read as an empty list. -/
theorem listOf_eq_nil_iff (v : Option Json) : listOf v = [] ↔ ListsNothing v := by
  constructor
  · intro nothing
    match v, nothing with
    | none, _ => exact .absent
    | some .null, _ => exact .null
    | some (.bool b), _ => exact .bool b
    | some (.number n), _ => exact .number n
    | some (.string s), _ => exact .string s
    | some (.array items), nothing =>
      rw [(listOf_array_eq_nil_iff items).mp nothing]
      exact .noItems
    | some (.object members), nothing =>
      rw [List.map_eq_nil_iff.mp nothing]
      exact .noMembers
  · intro nothing
    cases nothing <;> rfl

end FailureDetail

/-! ## Bodies -/

theorem Json.asInt64?_eq_some_iff {v : Json} {n : Int} :
    v.asInt64? = some n ↔ v = .number (.int n) ∧ -int64Bound ≤ n ∧ n < int64Bound := by
  unfold asInt64?
  split
  · next i =>
    rw [Option.ite_none_right_eq_some, Option.some.injEq]
    constructor
    · rintro ⟨bounds, rfl⟩
      exact ⟨rfl, bounds⟩
    · rintro ⟨same, bounds⟩
      cases same
      exact ⟨bounds, rfl⟩
  · next other =>
    simp only [reduceCtorEq, false_iff]
    rintro ⟨rfl, -⟩
    exact other n rfl

namespace AdminResponse

/-- A body with a status of 32 bits with sign is a response with its failures. -/
theorem ofBody?_of_status {body : Json} {status : Int}
    (found : body.at? ["responseHeader", "status"] = some (.number (.int status)))
    (low : -2147483648 ≤ status) (high : status ≤ 2147483647) :
    ∃ message, ofBody? body = .ok ⟨status, FailureDetail.listOf (body.get? "failure"), message⟩ := by
  have whole : (Json.number (.int status)).asInt64? = some status :=
    Json.asInt64?_eq_some_iff.mpr ⟨rfl, by simp only [Json.int64Bound]; omega⟩
  refine ⟨(body.at? ["error", "msg"]).bind Json.asString?, ?_⟩
  rw [ofBody?, found, Option.bind_some, whole]
  exact if_pos ⟨low, high⟩

/-- Any other body is not understood. -/
theorem ofBody?_of_no_status {body : Json}
    (missing : ∀ status, body.at? ["responseHeader", "status"] = some (.number (.int status)) →
      ¬ (-2147483648 ≤ status ∧ status ≤ 2147483647)) :
    ∃ reason, ofBody? body = .error (.protocol reason) := by
  unfold ofBody?
  split
  · exact ⟨_, rfl⟩
  · next status found =>
    obtain ⟨v, there, whole⟩ := Option.bind_eq_some_iff.mp found
    obtain ⟨rfl, -⟩ := Json.asInt64?_eq_some_iff.mp whole
    exact ⟨_, if_neg (missing status there)⟩

/-- Every body is a response, or is not understood. -/
theorem ofBody?_total (body : Json) :
    (∃ r, ofBody? body = .ok r) ∨ ∃ reason, ofBody? body = .error (.protocol reason) := by
  by_cases known : ∃ status : Int,
      body.at? ["responseHeader", "status"] = some (.number (.int status)) ∧
        -2147483648 ≤ status ∧ status ≤ 2147483647
  · obtain ⟨status, found, low, high⟩ := known
    obtain ⟨message, read⟩ := ofBody?_of_status found low high
    exact .inl ⟨_, read⟩
  · exact .inr (ofBody?_of_no_status fun status found bounds => known ⟨status, found, bounds⟩)

end AdminResponse

end ClusterBackup
