/-
ClusterBackup.Proofs.FileTree.Paths — paths, one part after another.

A path is followed along its first part and then along the others
(`follow_cons_iff`), and an entry of a directory is one step away from it
(`follow_name`). `WellNamed` says of a file system what every real one
keeps to: the names of entries can be parts of paths, and a directory has
each name once.
-/
import ClusterBackup.FileTree
import ClusterBackup.Proofs.Table
import ClusterBackup.Proofs.Text.Split
import Mathlib.Tactic.SplitIfs

namespace ClusterBackup

/-- What lies at the end of two paths, one behind the other. -/
theorem FileTree.at?_append (t : FileTree) (names more : List String) :
    t.at? (names ++ more) = (t.at? names).bind (·.at? more) := by
  induction names generalizing t with
  | nil => rfl
  | cons name names ih =>
    rw [List.cons_append, at?, at?, Option.bind_assoc]
    simp only [ih]

namespace FileSystem

variable {fs : FileSystem} {place dest : FileTree.Place}

/-! ## Directories and their entries -/

/-- The names of the entries at a place. -/
def namesIn (fs : FileSystem) (place : FileTree.Place) : List String :=
  (((fs.at? place).map (·.entries)).getD []).map (·.1)

/-- A path that leads to a directory. -/
def LeadsTo (fs : FileSystem) (path : String) (place : FileTree.Place) : Prop :=
  fs.place? path = .ok place ∧ fs.isDirectory place = true

/-- A name that an entry can have. -/
structure IsName (name : String) : Prop where
  nonempty : name ≠ ""
  notDot : name ≠ "."
  notDots : name ≠ ".."
  whole : '/' ∉ name.toList
  notNul : Char.ofNat 0 ∉ name.toList
  short : name.utf8ByteSize ≤ maxNameSize

/-- Every entry has a name that entries can have, and no other entry of its directory has it. -/
structure WellNamed (fs : FileSystem) : Prop where
  isName : ∀ place, ∀ n ∈ fs.namesIn place, IsName n
  distinct : ∀ place, (fs.namesIn place).Nodup

theorem at?_cons (fs : FileSystem) (name : String) (place : FileTree.Place) :
    fs.at? (name :: place) = (fs.at? place).bind fun t => t.entries.lookup name := by
  rw [at?, List.reverse_cons, FileTree.at?_append]
  simp only [at?, FileTree.at?, Option.bind_fun_some]

theorem isSome_at?_of_mem {name : String} (inside : name ∈ fs.namesIn place) :
    (fs.at? (name :: place)).isSome = true := by
  rw [at?_cons]
  cases found : fs.at? place with
  | none => simp [namesIn, found] at inside
  | some t =>
    rw [namesIn, found] at inside
    exact Option.isSome_iff_ne_none.mpr (Table.mem_names_iff.mp inside)

/-! ## Following a path -/

/-- A path leads along its first part and then along the others. -/
theorem follow_cons_iff {part : String} {parts : List String} :
    fs.follow place (part :: parts) = .ok dest ↔
      ∃ next, fs.follow place [part] = .ok next ∧ fs.follow next parts = .ok dest := by
  rw [follow, follow]
  split_ifs <;> simp [follow]

/-- An empty part behind a path is no step. -/
theorem follow_of_concat_empty {parts : List String}
    (found : fs.follow place (parts ++ [""]) = .ok dest) : fs.follow place parts = .ok dest := by
  induction parts generalizing place with
  | nil =>
    rw [List.nil_append, follow] at found
    split at found
    · cases found
    · rwa [if_pos (.inl rfl)] at found
  | cons part parts ih =>
    rw [List.cons_append] at found
    obtain ⟨next, step, rest⟩ := follow_cons_iff.mp found
    exact follow_cons_iff.mpr ⟨next, step, ih rest⟩

/-- An entry of a directory is one step away. -/
theorem follow_name {name : String} (proper : IsName name) (inside : name ∈ fs.namesIn place)
    (directory : fs.isDirectory place = true) : fs.follow place [name] = .ok (name :: place) := by
  rw [follow, directory, if_neg (by decide), if_neg (not_or.mpr ⟨proper.1, proper.2⟩),
    if_neg proper.3, if_neg (Nat.not_lt.mpr proper.short), if_pos (isSome_at?_of_mem inside),
    follow]

/-! ## Absolute and relative paths -/

/-- Whether a path starts at the root, and what follows the slash that says so. -/
inductive Divided : List Char → Bool → List Char → Prop where
  | absolute (body : List Char) : Divided ('/' :: body) true body
  | relative {body : List Char} (first : ∀ c ∈ body.head?, c ≠ '/') : Divided body false body

theorem exists_divided (cs : List Char) : ∃ absolute body, Divided cs absolute body := by
  cases cs with
  | nil => exact ⟨false, [], .relative nofun⟩
  | cons c cs =>
    by_cases slash : c = '/'
    · exact ⟨true, cs, slash ▸ .absolute cs⟩
    · exact ⟨false, c :: cs, .relative fun d first => Option.some.inj first ▸ slash⟩

/-- Where a path starts. -/
def start (fs : FileSystem) (absolute : Bool) : FileTree.Place :=
  if absolute then [] else fs.working

/-- A path is followed part by part from where it starts. -/
theorem follow_of_place? {path : String} {absolute : Bool} {body : List Char}
    (divided : Divided path.toList absolute body) (found : fs.place? path = .ok place) :
    fs.follow (fs.start absolute) ((Text.splitWhere (· == '/') body).map String.ofList) =
      .ok place := by
  rw [place?] at found
  split at found
  · cases found
  · next nonempty =>
    have nonempty : path.toList ≠ [] := by simpa using nonempty
    split at found
    · cases found
    · rw [parts] at found
      generalize path.toList = cs at divided found nonempty
      cases divided with
      | absolute body => exact found
      | relative first =>
        -- The first part of a relative path is not empty.
        obtain ⟨c, rest, rfl⟩ := List.exists_cons_of_ne_nil nonempty
        obtain ⟨part, parts, split⟩ : ∃ part parts,
            Text.splitWhere (· == '/') (c :: rest) = (c :: part) :: parts :=
          Text.exists_splitWhere_cons (by simpa using first c rfl) rest
        rw [split, List.map_cons] at found ⊢
        split at found
        · next same => simp at same
        · exact found

/-- A name leads to the entry of that name. -/
theorem place?_name {name : String} (proper : IsName name) (inside : name ∈ fs.namesIn fs.working)
    (directory : fs.isDirectory fs.working = true) :
    fs.place? name = .ok (name :: fs.working) := by
  have short : ¬ maxPathSize < name.utf8ByteSize := by
    have := proper.short
    unfold maxNameSize at this
    unfold maxPathSize
    omega
  have alone : parts name = [name] := by
    rw [parts, Text.splitWhere_eq_singleton, List.map_singleton, String.ofList_toList]
    intro c member
    rw [beq_eq_false_iff_ne]
    rintro rfl
    exact proper.whole member
  rw [place?, if_neg proper.nonempty, if_neg short, alone]
  split
  · next same => exact absurd (List.cons.inj same).1 proper.nonempty
  · exact follow_name proper inside directory

end FileSystem

end ClusterBackup
