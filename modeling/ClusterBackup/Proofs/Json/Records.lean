/-
ClusterBackup.Proofs.Json.Records — a record that was written is read back.

An object that is written for a record has the record's names as the names
of its members, in their order, and perhaps leaves some out. Such an
object is read as the record of its members (`record_draft`), and each
reader of a member gets the draft of the member's value. What is read of
the draft is also what is read of the text (`readText_write`).
-/
import ClusterBackup.Json.Reader
import ClusterBackup.Proofs.Json.Scan

namespace ClusterBackup

/-- A step that comes out well is followed by the next one. -/
theorem ok_bind {ε α β : Type} (a : α) (f : α → Except ε β) : (Except.ok a >>= f) = f a := rfl

namespace Json

open Draft

/-! ## The members of a record -/

/-- Members with known names that come once each are all found, in their order. -/
theorem Draft.knownMembers_map {names : List String} {found members : List (String × Draft)}
    (known : ∀ m ∈ members, m.1 ∈ names) (distinct : (members.map Prod.fst).Nodup)
    (fresh : ∀ m ∈ members, found.lookup m.1 = none) (whole : ∀ m ∈ members, m.2 ≠ broken) :
    knownMembers names found (members.map fun m => (some m.1, m.2)) =
      .ok (found.reverse ++ members) := by
  induction members generalizing found with
  | nil => simp [knownMembers]
  | cons m ms ih =>
    rw [List.map_cons, List.nodup_cons] at distinct
    have still_fresh : ∀ m' ∈ ms, (m :: found).lookup m'.1 = none := by
      intro m' mem
      have other : m'.1 ≠ m.1 := fun same => distinct.1 (same ▸ List.mem_map_of_mem mem)
      rw [List.lookup_cons, beq_false_of_ne other]
      exact fresh m' (.tail m mem)
    have rest := ih (fun m' mem => known m' (.tail m mem)) distinct.2 still_fresh
      fun m' mem => whole m' (.tail m mem)
    rw [List.map_cons, knownMembers, if_pos (known m (.head ms)), fresh m (.head ms)]
    · simpa using rest
    · exact fun same => whole m (.head ms) same

/-- The record of the members of an object. -/
def Draft.Record.ofMembers (members : List (String × Json)) : Record :=
  ⟨false, members.map fun m => (m.1, m.2.draft)⟩

section

variable {names : List String} {members : List (String × Json)}

/-- All members are found if their names are names of the record, in their order. -/
theorem Draft.knownMembers_draft (ordered : (members.map Prod.fst).Sublist names)
    (distinct : names.Nodup) :
    knownMembers names [] (members.map fun m => (some m.1, m.2.draft)) =
      .ok (Record.ofMembers members).members := by
  have found : knownMembers names [] ((Record.ofMembers members).members.map
      fun m => (some m.1, m.2)) = .ok (Record.ofMembers members).members := by
    refine knownMembers_map ?_ ?_ ?_ ?_
    · intro d drafted
      obtain ⟨m, mem, rfl⟩ := List.mem_map.mp drafted
      exact ordered.subset (List.mem_map_of_mem mem)
    · rw [Record.ofMembers, List.map_map]
      exact ordered.nodup distinct
    · intro d _
      rfl
    · intro d drafted
      obtain ⟨m, -, rfl⟩ := List.mem_map.mp drafted
      exact m.2.draft_ne_broken
  rwa [Record.ofMembers, List.map_map, Function.comp_def] at found

/-- An object that was written is read as the record of its members. -/
theorem record_draft (ordered : (members.map Prod.fst).Sublist names) (distinct : names.Nodup) :
    (Json.object members).draft.record names = .ok (.ofMembers members) := by
  rw [draft, memberDrafts_eq, record, knownMembers_draft ordered distinct]
  rfl

variable {α : Type} {read : Draft → Except Fault α} {name : String}

theorem lookup_ofMembers (distinct : (members.map Prod.fst).Nodup) {v : Json}
    (mem : (name, v) ∈ members) :
    (Record.ofMembers members).members.lookup name = some v.draft := by
  obtain ⟨before, after, rfl⟩ := List.append_of_mem mem
  rw [List.map_append, List.map_cons, List.nodup_append] at distinct
  rw [Record.ofMembers, List.map_append, List.map_cons, List.lookup_eq_some_iff]
  refine ⟨_, _, rfl, fun d drafted => ?_⟩
  obtain ⟨m, earlier, rfl⟩ := List.mem_map.mp drafted
  have other := distinct.2.2 m.1 (List.mem_map_of_mem earlier) name (.head _)
  exact bne_iff_ne.mpr other.symm

/-- A member that must be there is read where it is. -/
theorem required_of_mem (distinct : (members.map Prod.fst).Nodup) {v : Json}
    (mem : (name, v) ∈ members) : (Record.ofMembers members).required name read = read v.draft := by
  rw [Record.required, lookup_ofMembers distinct mem]

/-- A member that has a value of its own when it is left out is read where it is. -/
theorem defaulted_of_mem (distinct : (members.map Prod.fst).Nodup) {v : Json}
    (mem : (name, v) ∈ members) (a : α) :
    (Record.ofMembers members).defaulted name a read = read v.draft := by
  rw [Record.defaulted, lookup_ofMembers distinct mem]

/-- A member that is null when it is left out is read where it is. -/
theorem nullable_of_mem (distinct : (members.map Prod.fst).Nodup) {v : Json}
    (mem : (name, v) ∈ members) :
    (Record.ofMembers members).nullable name read = v.draft.optional? read := by
  rw [Record.nullable, lookup_ofMembers distinct mem]

/-- A member that is left out is nothing. -/
theorem nullable_of_missing (missing : name ∉ members.map Prod.fst) :
    (Record.ofMembers members).nullable name read = .ok none := by
  have absent : (Record.ofMembers members).members.lookup name = none := by
    rw [Record.ofMembers, List.lookup_eq_none_iff]
    intro d drafted
    obtain ⟨m, mem, rfl⟩ := List.mem_map.mp drafted
    exact bne_iff_ne.mpr fun same => missing (same ▸ List.mem_map_of_mem mem)
  rw [Record.nullable, absent]
  rfl

end

/-! ## Members that may be left out -/

@[simp] theorem mem_member? {x name : String} {v : Json} {o : Option Json} :
    (x, v) ∈ member? name o ↔ x = name ∧ o = some v := by
  cases o with
  | none => simp [member?]
  | some w => simp [member?, eq_comm]

/-- A member that may be left out has no name but its own. -/
theorem names_member?_sublist (name : String) (o : Option Json) :
    ((member? name o).map Prod.fst).Sublist [name] := by
  cases o with
  | none => exact List.nil_sublist [name]
  | some v => exact List.Sublist.refl [name]

/-! ## Values of members -/

/-- A value without parts and without digits. -/
def isPlain : Json → Bool
  | .null | .bool _ | .string _ => true
  | .number _ | .array _ | .object _ => false

theorem numberless_of_isPlain {v : Json} (h : v.isPlain = true) : v.numberless = true := by
  cases v with
  | null => rfl
  | bool b => rfl
  | string s => rfl
  | number n => cases h
  | array items => cases h
  | object members => cases h

/-- A plain value is read as itself at any depth. -/
theorem value?_draft {v : Json} (h : v.isPlain = true) (depth : Nat) :
    v.draft.value? depth = .ok v := by
  cases v with
  | null => rfl
  | bool b => rfl
  | string s => rfl
  | number n => cases h
  | array items => cases h
  | object members => cases h

@[simp] theorem isPlain_bool (b : Bool) : (bool b).isPlain = true := rfl

@[simp] theorem isPlain_string (s : String) : (string s).isPlain = true := rfl

@[simp] theorem isPlain_ofText? (o : Option String) : (ofText? o).isPlain = true := by
  cases o <;> rfl

/-- A text that may be missing is read as it was. -/
theorem optional?_ofText? (o : Option String) :
    (ofText? o).draft.optional? text? = .ok o := by
  cases o <;> rfl

/-- A list is read back if its items are. -/
theorem list?_array {α : Type} {read : Draft → Except Fault α} {write : α → Json} {xs : List α}
    (items : ∀ x ∈ xs, read (write x).draft = .ok x) :
    (Json.array (xs.map write)).draft.list? read = .ok xs := by
  have read_all : ((xs.map write).map draft).mapM read = .ok xs := by
    induction xs with
    | nil => rfl
    | cons x xs ih =>
      have first := items x (.head xs)
      have rest := ih fun x mem => items x (.tail _ mem)
      rw [List.map_cons, List.map_cons, List.mapM_cons, first, rest]
      rfl
  rw [draft, itemDrafts_eq, list?, read_all]
  rfl

/-! ## Texts -/

/-- What is read of the draft of a value is read of its text. -/
theorem readText_write {α : Type} {read : Draft → Except Fault α} {v : Json} {a : α}
    (h : v.numberless = true) (drafted : read v.draft = .ok a) : readText read v.write = .ok a := by
  rw [readText, scan_write h]
  simp only [drafted]
  rfl

end Json

end ClusterBackup
