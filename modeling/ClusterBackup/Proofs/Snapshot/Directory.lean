/-
ClusterBackup.Proofs.Snapshot.Directory — the latest backup of a directory,
and of others.

A location is taken as the start of a pattern. As long as it holds no
wildcard the pattern leads to the directory that the location names, and
the answer is the latest of the names in it (`resolve?_of_plain`); only a
relative location that has an empty part behind its first dots leads
nowhere. With a wildcard in its name no directory is safe
(`exists_wrong`): the pattern cannot be read, or it does not stand for the
name, or it stands for a second name, and then a later backup in that
other directory is the answer.
-/
import ClusterBackup.Proofs.FileTree.Glob
import ClusterBackup.Proofs.Snapshot.Latest
import ClusterBackup.Proofs.Snapshot.Spelling
import ClusterBackup.Snapshot.Directory
import Mathlib

namespace ClusterBackup.Snapshot

open FileSystem

variable {fs : FileSystem} {place dest : FileTree.Place}

/-! ## The pattern at a location -/

/-- The last part of the pattern, as a text. -/
def wanted : List Char := namePrefix.toList ++ ['*']

/-- The last part of the pattern. -/
def wantedPart : Glob.Part := namePrefix.toList.map .char ++ [.anyText]

/-- A path with a slash behind it, unless there is one or nothing to put it behind. -/
def opened (cs : List Char) : List Char := if cs = [] ∨ ['/'] <:+ cs then cs else cs ++ ['/']

/-- The parts of a path, without the empty one behind a slash at its end. -/
def steps (cs : List Char) : List (List Char) :=
  let parts := Text.splitWhere (· == '/') cs
  if cs = [] ∨ ['/'] <:+ cs then parts.dropLast else parts

theorem toList_patternAt (location : String) :
    (patternAt location).toList = opened location.toList ++ wanted := by
  have slash : location.endsWith "/" = true ↔ ['/'] <:+ location.toList := by
    rw [String.endsWith_eq_endsWith_toSlice, String.Slice.endsWith_string_iff]
    simp
  rw [patternAt, opened, wanted]
  by_cases empty : location = ""
  · simp [empty]
  · by_cases ends : location.endsWith "/" = true
    · simp [empty, ends, slash.mp ends]
    · simp [empty, ends, mt slash.mpr ends]

theorem opened_cons_slash (body : List Char) : opened ('/' :: body) = '/' :: opened body := by
  have ends : ['/'] <:+ '/' :: body ↔ body = [] ∨ ['/'] <:+ body := by
    rw [List.suffix_cons_iff]
    simp [eq_comm]
  rw [opened, opened]
  by_cases inner : body = [] ∨ ['/'] <:+ body
  · rw [if_pos (.inr (ends.mpr inner)), if_pos inner]
  · rw [if_neg (by simpa [ends] using inner), if_neg inner, List.cons_append]

/-- The pattern starts at the root if the location does. -/
theorem divided_patternAt {location : String} {absolute : Bool} {body : List Char}
    (divided : Divided location.toList absolute body) :
    Divided (patternAt location).toList absolute (opened body ++ wanted) := by
  rw [toList_patternAt]
  generalize location.toList = cs at divided
  cases divided with
  | absolute body =>
    rw [opened_cons_slash]
    exact .absolute _
  | relative first =>
    refine .relative fun c inside => ?_
    cases body with
    | nil =>
      cases inside
      decide
    | cons d body =>
      refine first c ?_
      rw [opened] at inside
      split at inside <;> exact inside

/-- The parts of the pattern are those of the location, and the names of backups. -/
theorem splitWhere_opened (cs : List Char) :
    Text.splitWhere (· == '/') (opened cs ++ wanted) = steps cs ++ [wanted] := by
  have last : Text.splitWhere (· == '/') wanted = [wanted] :=
    Text.splitWhere_eq_singleton (by simp [wanted, namePrefix])
  rw [opened, steps]
  by_cases closed : cs = [] ∨ ['/'] <:+ cs
  · rw [if_pos closed, if_pos closed]
    rcases closed with rfl | ⟨front, rfl⟩
    · exact last
    · rw [List.append_assoc, List.singleton_append, Text.splitWhere_append_cons (by rfl),
        Text.splitWhere_append_cons (by rfl), last, Text.splitWhere, List.dropLast_concat]
  · rw [if_neg closed, if_neg closed, List.append_assoc, List.singleton_append,
      Text.splitWhere_append_cons (by rfl), last]

/-- The parts lead where the location leads. -/
theorem follow_steps {cs : List Char}
    (found : fs.follow place ((Text.splitWhere (· == '/') cs).map String.ofList) = .ok dest) :
    fs.follow place ((steps cs).map String.ofList) = .ok dest := by
  rw [steps]
  split
  · next closed =>
    rcases closed with rfl | ⟨front, rfl⟩
    · exact follow_of_concat_empty found
    · rw [Text.splitWhere_append_cons (by rfl), Text.splitWhere] at found ⊢
      rw [List.dropLast_concat]
      rw [List.map_append] at found
      exact follow_of_concat_empty found
  · exact found

theorem plain_of_mem_steps {cs part : List Char} (plain : Glob.Plain cs)
    (inside : part ∈ steps cs) : Glob.Plain part := by
  have among : part ∈ Text.splitWhere (· == '/') cs := by
    rw [steps] at inside
    split at inside
    · exact List.dropLast_subset _ inside
    · exact inside
  exact fun c member => plain c (Text.mem_of_mem_splitWhere among member)

theorem plain_opened {cs : List Char} (plain : Glob.Plain cs) : Glob.Plain (opened cs) := by
  rw [opened]
  split
  · exact plain
  · exact List.forall_mem_append.mpr ⟨plain, List.forall_mem_singleton.mpr rfl⟩

/-! ## The names of backups in a directory -/

theorem plain_namePrefix : Glob.Plain namePrefix.toList := by decide

theorem readTokens_wanted (position : Nat) (before : Option Char) :
    Glob.readTokens position before wanted = .ok wantedPart :=
  Glob.readTokens_append plain_namePrefix Glob.readTokens_star position before

/-- The pattern of the names compares the names of the entries only, and takes those that start like
a backup. -/
theorem namesFrom_wanted (wellNamed : fs.WellNamed) (directory : fs.isDirectory dest = true)
    (atStart : Bool) :
    Glob.namesFrom fs [.entry wantedPart] dest atStart =
      (fs.namesIn dest).filter fun name => Glob.matchesName wantedPart name.toList := by
  have wild : Glob.literal? wantedPart = none := by decide
  have compared : Glob.candidates fs dest wantedPart = fs.namesIn dest := by
    rw [Glob.candidates, if_neg (by decide), List.nil_append, namesIn]
  rw [Glob.namesFrom, Glob.namesAt, wild]
  dsimp only
  rw [compared]
  refine Eq.trans (List.flatMap_congr fun name inside => ?_) (List.flatMap_singleton' _)
  obtain ⟨member, -⟩ := List.mem_filter.mp inside
  have proper : IsName name := wellNamed.isName dest name member
  rw [Glob.follow?, if_neg (fun empty => proper.nonempty empty.1),
    follow_name proper member directory]
  rfl

/-- The names that do not start like a backup tell no moment. -/
theorem latest?_filter (names : List String) :
    latest? (names.filter fun name => Glob.matchesName wantedPart name.toList) = latest? names := by
  rw [latest?, latest?, List.filterMap_filter]
  congr 3
  funext name
  split
  · rfl
  · next other =>
    rw [wantedPart, Glob.matchesName_concat_anyText] at other
    cases told : timestamp? name with
    | none => rfl
    | some t =>
      rw [timestamp?, Option.bind_eq_some_iff] at told
      obtain ⟨rest, started, -⟩ := told
      exact absurd ⟨rest, (afterPrefix?_eq_some_iff.mp started).symm⟩ other

/-! ## Locations without wildcards -/

/-- A relative location with an empty part behind nothing but dots. -/
def stumbles (location : String) : Bool :=
  location.toList.head? != some '/' && Glob.stumblesOn (steps location.toList)

theorem stumbles_eq {location : String} {absolute : Bool} {body : List Char}
    (divided : Divided location.toList absolute body) :
    stumbles location = (!absolute && Glob.stumblesOn (steps body)) := by
  rw [stumbles]
  generalize location.toList = cs at divided
  cases divided with
  | absolute body => rfl
  | relative first =>
    have start : body.head? != some '/' := by
      rw [bne_iff_ne]
      exact fun slash => first '/' slash rfl
    rw [start]
    rfl

/-- The pattern at a location without wildcards. -/
theorem parse?_patternAt {location : String} {absolute : Bool} {body : List Char}
    (divided : Divided location.toList absolute body) (plain : Glob.Plain location.toList) :
    Glob.parse? (patternAt location) =
      .ok ⟨absolute,
        (steps body).map (fun cs => .entry (cs.map .char)) ++ [.entry wantedPart]⟩ := by
  have inner : Glob.Plain body := by
    generalize location.toList = cs at divided plain
    cases divided with
    | absolute body => exact (List.forall_mem_cons.mp plain).2
    | relative _ => exact plain
  have whole := Glob.readTokens_append (plain_opened plain) readTokens_wanted 0 none
  rw [← toList_patternAt] at whole
  have each := Glob.mapM_readTokens_of_plain fun part inside => plain_of_mem_steps inner inside
  refine (Glob.parse?_eq_ok_iff (divided_patternAt divided)).mpr ⟨⟨_, whole⟩,
    (steps body).map (fun cs => cs.map .char) ++ [wantedPart], ?_, ?_⟩
  · rw [splitWhere_opened, List.mapM_append, each, List.mapM_cons, readTokens_wanted,
      List.mapM_nil]
    rfl
  · rw [Glob.stepsOf_eq_map, List.map_append, List.map_map]
    · rfl
    · intro p inside
      rw [List.mem_append, List.mem_map, List.mem_singleton] at inside
      rcases inside with ⟨cs, -, rfl⟩ | rfl
      · cases cs <;> simp
      · decide

/-- **A location without wildcards leads to its directory**, unless it stumbles. -/
theorem resolve?_of_plain {location : String} (wellNamed : fs.WellNamed)
    (leads : fs.LeadsTo location place) (plain : Glob.Plain location.toList) :
    resolve? fs location =
      .ok (if stumbles location then none else latest? (fs.namesIn place)) := by
  obtain ⟨found, directory⟩ := leads
  obtain ⟨absolute, body, divided⟩ := exists_divided location.toList
  have path := follow_steps (follow_of_place? divided found)
  rw [resolve?, parse?_patternAt divided plain, stumbles_eq divided]
  dsimp only
  rw [Glob.names_eq, Glob.namesFrom_literal wantedPart (!absolute) path,
    namesFrom_wanted wellNamed directory]
  split
  · rfl
  · rw [latest?_filter]

/-! ## A name as a location -/

/-- A name is a relative path of one part. -/
theorem divided_name {name : String} (proper : IsName name) :
    Divided name.toList false name.toList := by
  refine .relative ?_
  rintro c first rfl
  exact proper.whole (List.mem_of_mem_head? first)

theorem steps_name {name : String} (proper : IsName name) :
    steps name.toList = [name.toList] := by
  have unclosed : ¬ (name.toList = [] ∨ ['/'] <:+ name.toList) := by
    rintro (empty | ends)
    · exact proper.nonempty (by simpa using empty)
    · exact proper.whole (ends.subset List.mem_cons_self)
  rw [steps, if_neg unclosed, Text.splitWhere_eq_singleton]
  intro c inside
  rw [beq_eq_false_iff_ne]
  rintro rfl
  exact proper.whole inside

theorem stumbles_name {name : String} (proper : IsName name) : stumbles name = false := by
  have solid : name.toList ≠ [] := by simpa using proper.nonempty
  rw [stumbles_eq (divided_name proper), steps_name proper, Glob.stumblesOn, Glob.stumblesOn,
    beq_eq_false_iff_ne.mpr solid, Bool.and_false]
  rfl

/-! ## Directories side by side -/

/-- Directories side by side, each with one backup in it. -/
def shelf (holds : List (String × String)) : FileSystem where
  root := .directory (holds.map fun (name, backup) => (name, .directory [(backup, .directory [])]))
  working := []

theorem namesIn_shelf (holds : List (String × String)) :
    (shelf holds).namesIn [] = holds.map (·.1) := by
  simp [namesIn, FileSystem.at?, FileTree.at?, shelf, FileTree.entries]

/-- Everything in a shelf is the shelf, one of its directories, or a backup. -/
theorem shelf_cases {holds : List (String × String)} {t : FileTree}
    (found : (shelf holds).at? place = some t) :
    t = (shelf holds).root ∨
      (∃ p ∈ holds, t = .directory [(p.2, .directory [])]) ∨ t = .directory [] := by
  induction place generalizing t with
  | nil => exact .inl (Option.some.inj found).symm
  | cons name place ih =>
    rw [at?_cons, Option.bind_eq_some_iff] at found
    obtain ⟨u, above, entry⟩ := found
    rw [List.lookup_eq_some_iff] at entry
    obtain ⟨before, after, entries, -⟩ := entry
    have listed : (name, t) ∈ u.entries := by simp [entries]
    rcases ih above with rfl | ⟨p, inside, rfl⟩ | rfl
    · obtain ⟨p, inside, same⟩ := List.mem_map.mp listed
      cases same
      exact .inr (.inl ⟨p, inside, rfl⟩)
    · cases List.mem_singleton.mp listed
      exact .inr (.inr rfl)
    · cases listed

theorem wellNamed_shelf {holds : List (String × String)}
    (proper : ∀ p ∈ holds, IsName p.1 ∧ IsName p.2) (distinct : (holds.map (·.1)).Nodup) :
    (shelf holds).WellNamed := by
  have names : (shelf holds).root.entries.map (·.1) = holds.map (·.1) := by
    simp [shelf, FileTree.entries]
  constructor
  · intro place n inside
    rw [namesIn] at inside
    cases found : (shelf holds).at? place with
    | none => simp [found] at inside
    | some t =>
      rw [found] at inside
      rcases shelf_cases found with rfl | ⟨p, member, rfl⟩ | rfl
      · change n ∈ (shelf holds).root.entries.map (·.1) at inside
        rw [names] at inside
        obtain ⟨p, member, rfl⟩ := List.mem_map.mp inside
        exact (proper p member).1
      · rw [List.mem_singleton.mp inside]
        exact (proper p member).2
      · cases inside
  · intro place
    rw [namesIn]
    cases found : (shelf holds).at? place with
    | none => exact List.nodup_nil
    | some t =>
      rcases shelf_cases found with rfl | ⟨p, member, rfl⟩ | rfl
      · change ((shelf holds).root.entries.map (·.1)).Nodup
        rwa [names]
      · simp [FileTree.entries]
      · exact List.nodup_nil

theorem at?_shelf (holds : List (String × String)) (name : String) :
    (shelf holds).at? [name] =
      (holds.lookup name).map fun backup => .directory [(backup, .directory [])] := by
  rw [at?_cons, FileSystem.at?]
  simp only [shelf, FileTree.at?, List.reverse_nil, Option.bind_some, FileTree.entries]
  induction holds with
  | nil => rfl
  | cons p holds ih =>
    rw [List.map_cons, List.lookup_cons, List.lookup_cons, ih]
    cases name == p.1 <;> rfl

/-- The directory of a name in a shelf is found by the name, and it holds the one backup. -/
theorem leadsTo_shelf {holds : List (String × String)} {name backup : String}
    (proper : IsName name) (found : Table.get? holds name = some backup) :
    (shelf holds).LeadsTo name [name] ∧ (shelf holds).namesIn [name] = [backup] ∧
      (shelf holds).follow [] [name] = .ok [name] := by
  have there : (shelf holds).at? [name] = some (.directory [(backup, .directory [])]) := by
    rw [at?_shelf, ← Table.get?, found]
    rfl
  have root : (shelf holds).isDirectory [] = true := rfl
  have listed : name ∈ (shelf holds).namesIn [] := by
    rw [namesIn_shelf]
    exact Table.mem_names_iff.mpr (by simp [found])
  refine ⟨⟨place?_name proper listed root, ?_⟩, ?_, follow_name proper listed root⟩
  · rw [FileSystem.isDirectory, there]
    rfl
  · rw [namesIn, there]
    rfl

/-! ## Names with wildcards -/

/-- Two backups, taken a year apart. -/
def older : String := "snapshot.20240309140507123"
def newer : String := "snapshot.20250309140507123"

theorem isName_older : IsName older := by
  constructor <;> decide

theorem isName_newer : IsName newer := by
  constructor <;> decide

theorem latest?_older : latest? [older] = some older := by decide +kernel

/-- A list in which the newer backup is does not have the older one as its latest. -/
theorem latest?_ne_older {names : List String} (inside : newer ∈ names) :
    latest? names ≠ some older := by
  intro found
  obtain ⟨-, t, told, last⟩ := mem_of_latest? found
  have tells : timestamp? older = some ⟨2024, 3, 9, 14, 5, 7, 123000000⟩ := by decide +kernel
  have tells' : timestamp? newer = some ⟨2025, 3, 9, 14, 5, 7, 123000000⟩ := by decide +kernel
  obtain rfl : _ = t := Option.some.inj (tells.symm.trans told)
  exact absurd (last newer inside _ tells') (by decide)

/-- The pattern at a name is that of the name, and that of the names of backups. -/
theorem exists_part_of_parse? {name : String} (proper : IsName name) {g : Glob}
    (read : Glob.parse? (patternAt name) = .ok g) :
    ∃ p, Glob.readTokens 0 none name.toList = .ok p ∧
      g = ⟨false, Glob.stepsOf [p, wantedPart]⟩ := by
  obtain ⟨-, parts, each, rfl⟩ :=
    (Glob.parse?_eq_ok_iff (divided_patternAt (divided_name proper))).mp read
  rw [splitWhere_opened, steps_name proper] at each
  cases first : Glob.readTokens 0 none name.toList with
  | error fault =>
    rw [List.singleton_append, List.mapM_cons, first] at each
    cases each
  | ok p =>
    rw [List.singleton_append, List.mapM_cons, first, List.mapM_cons, readTokens_wanted] at each
    cases each
    exact ⟨p, rfl, rfl⟩

/-- Behind a part with wildcards the backups are looked for in every place that the part stands
for. -/
theorem mem_names_behind_iff {p : Glob.Part} (wild : Glob.literal? p = none)
    (near : p ≠ [.anyDepth]) (backup : String) :
    backup ∈ Glob.names fs ⟨false, Glob.stepsOf [p, wantedPart]⟩ ↔
      ∃ n ∈ Glob.candidates fs fs.working p, Glob.matchesName p n.toList = true ∧
        ∃ next, Glob.follow? fs fs.working true n = some next ∧
          backup ∈ Glob.namesFrom fs [.entry wantedPart] next (n == ".") := by
  have steps : Glob.stepsOf [p, wantedPart] = [.entry p, .entry wantedPart] := by
    refine Glob.stepsOf_eq_map fun q inside => ?_
    rcases List.mem_pair.mp inside with rfl | rfl
    · exact near
    · decide
  rw [Glob.names, if_neg Bool.false_ne_true, steps, Glob.namesFrom, Glob.namesAt, wild]
  simp only [List.mem_flatMap, List.mem_filter, and_assoc]
  refine exists_congr fun n => and_congr_right fun _ => and_congr_right fun _ => ?_
  cases Glob.follow? fs fs.working true n with
  | none => simp
  | some next => simp

/-- A pattern that stands for a second name finds the backup in the other directory. -/
theorem newer_mem_names {name other : String} {p : Glob.Part} (proper : IsName other)
    (distinct : other ≠ name) (wild : Glob.literal? p = none)
    (matched : Glob.matchesName p other.toList = true)
    (wellNamed : (shelf [(name, older), (other, newer)]).WellNamed) :
    newer ∈ Glob.names (shelf [(name, older), (other, newer)])
      ⟨false, Glob.stepsOf [p, wantedPart]⟩ := by
  have starts : Glob.matchesName wantedPart newer.toList = true := by
    rw [wantedPart, Glob.matchesName_concat_anyText]
    decide
  by_cases deep : p = [.anyDepth]
  · have steps : Glob.stepsOf [p, wantedPart] = [.descendant wantedPart] := by
      rw [deep]
      decide
    have below : ([newer, other], FileTree.directory []) ∈
        Glob.descendants (shelf [(name, older), (other, newer)]) [] := by
      simp [Glob.descendants, FileSystem.at?, FileTree.at?, shelf, FileTree.descendants,
        FileTree.entryDescendants]
    rw [Glob.names_eq, steps, Glob.namesFrom, List.mem_flatMap]
    refine ⟨_, below, ?_⟩
    dsimp only [List.head?_cons]
    rw [if_pos starts]
    exact List.mem_singleton_self _
  · have held : Table.get? [(name, older), (other, newer)] other = some newer := by
      rw [Table.get?_cons, if_neg distinct, Table.get?_cons, if_pos rfl]
    obtain ⟨leads, holds, step⟩ := leadsTo_shelf proper held
    refine (mem_names_behind_iff wild deep newer).mpr ⟨other, ?_, matched, [other], ?_, ?_⟩
    · refine List.mem_append_right _ ?_
      change other ∈ (shelf _).namesIn []
      rw [namesIn_shelf]
      simp
    · rw [Glob.follow?, if_neg fun empty => proper.nonempty empty.1]
      exact congrArg Except.toOption step
    · rw [namesFrom_wanted wellNamed leads.2, holds]
      exact List.mem_filter.mpr ⟨List.mem_singleton_self _, starts⟩

/-- A pattern that does not stand for its own name does not find the backup there. -/
theorem older_notMem_names {name : String} {p : Glob.Part} (distinct : older ≠ name)
    (wild : Glob.literal? p = none) (unmatched : Glob.matchesName p name.toList = false)
    (wellNamed : (shelf [(name, older)]).WellNamed) :
    older ∉ Glob.names (shelf [(name, older)]) ⟨false, Glob.stepsOf [p, wantedPart]⟩ := by
  have near : p ≠ [.anyDepth] := by
    rintro rfl
    rw [Glob.matchesName_text _ (.inr rfl)] at unmatched
    cases unmatched
  -- Besides the directory there are only the two names that stay at the root.
  have atRoot : ∀ n ∈ Glob.candidates (shelf [(name, older)]) [] p, n ≠ name →
      Glob.follow? (shelf [(name, older)]) [] true n = some [] := by
    intro n inside other
    rw [Glob.candidates, List.mem_append] at inside
    rcases inside with dots | listed
    · split at dots
      · rcases List.mem_pair.mp dots with rfl | rfl <;> rfl
      · cases dots
    · change n ∈ (shelf _).namesIn [] at listed
      rw [namesIn_shelf] at listed
      exact absurd (List.mem_singleton.mp listed) other
  rw [mem_names_behind_iff wild near]
  rintro ⟨n, inside, matched, next, step, found⟩
  have other : n ≠ name := by
    rintro rfl
    rw [unmatched] at matched
    cases matched
  obtain rfl : [] = next := Option.some.inj ((atRoot n inside other).symm.trans step)
  rw [namesFrom_wanted wellNamed rfl, namesIn_shelf] at found
  exact distinct (List.mem_singleton.mp (List.mem_of_mem_filter found))

/-- **No name with a wildcard is safe**: some file system has a directory of that name and backups,
and the answer is not the latest of the backups in the directory. -/
theorem exists_wrong {name : String} (proper : IsName name) (wild : ¬ Glob.Plain name.toList) :
    ∃ (fs : FileSystem) (place : FileTree.Place), fs.WellNamed ∧ fs.LeadsTo name place ∧
      resolve? fs name ≠ .ok (latest? (fs.namesIn place)) := by
  have distinct : older ≠ name := by
    rintro rfl
    exact wild (by decide)
  have alone : (shelf [(name, older)]).WellNamed :=
    wellNamed_shelf (by simp [proper, isName_older]) (by simp)
  obtain ⟨leads, holds, -⟩ : (shelf [(name, older)]).LeadsTo name [name] ∧ _ :=
    leadsTo_shelf proper (by rw [Table.get?_cons, if_pos rfl])
  cases read : Glob.parse? (patternAt name) with
  | error fault =>
    refine ⟨shelf [(name, older)], [name], alone, leads, ?_⟩
    rw [resolve?, read]
    nofun
  | ok g =>
    obtain ⟨p, part, rfl⟩ := exists_part_of_parse? proper read
    have writes : Glob.Writes name.toList p := Glob.writes_of_readTokens part
    have unread : Glob.literal? p = none := writes.literal?_eq_none wild
    by_cases matched : Glob.matchesName p name.toList = true
    · obtain ⟨other, proper', distinct', matched'⟩ := Glob.exists_other proper writes wild matched
      have both : (shelf [(name, older), (other, newer)]).WellNamed :=
        wellNamed_shelf (by simp [proper, proper', isName_older, isName_newer])
          (by simp [distinct'.symm])
      obtain ⟨leads, holds, -⟩ : (shelf [(name, older), (other, newer)]).LeadsTo name [name] ∧ _ :=
        leadsTo_shelf proper (by rw [Table.get?_cons, if_pos rfl])
      refine ⟨shelf [(name, older), (other, newer)], [name], both, leads, ?_⟩
      rw [resolve?, read, holds, latest?_older]
      intro same
      exact latest?_ne_older (newer_mem_names proper' distinct' unread matched' both)
        (Except.ok.inj same)
    · refine ⟨shelf [(name, older)], [name], alone, leads, ?_⟩
      rw [resolve?, read, holds, latest?_older]
      intro same
      obtain ⟨found, -⟩ := mem_of_latest? (Except.ok.inj same)
      exact older_notMem_names distinct unread (by simpa using matched) alone found

/-- **A location is read as a pattern.** Without wildcards it is answered with the latest backup of
the directory that it names, or with none if it stumbles; and the name of a directory is answered so
in every file system exactly if it has no wildcard. -/
theorem locations_are_read_as_patterns (location : String) :
    (Glob.Plain location.toList → ∀ (fs : FileSystem) (place : FileTree.Place), fs.WellNamed →
      fs.LeadsTo location place → resolve? fs location =
        .ok (if stumbles location then none else latest? (fs.namesIn place))) ∧
    (IsName location →
      ((∀ (fs : FileSystem) (place : FileTree.Place), fs.WellNamed → fs.LeadsTo location place →
        resolve? fs location = .ok (latest? (fs.namesIn place))) ↔
          Glob.Plain location.toList)) := by
  refine ⟨fun plain fs place wellNamed leads => resolve?_of_plain wellNamed leads plain,
    fun proper => ⟨fun right => ?_, fun plain fs place wellNamed leads => ?_⟩⟩
  · by_contra wild
    obtain ⟨fs, place, wellNamed, leads, wrong⟩ := exists_wrong proper wild
    exact wrong (right fs place wellNamed leads)
  · rw [resolve?_of_plain wellNamed leads plain, stumbles_name proper]
    rfl

/-- The backup in a directory is found by a location without wildcards and missed by one that
stumbles; beside a directory whose name fits, one with brackets in its name is answered with the
backup of the other. -/
theorem locations_are_read_as_patterns_brackets :
    resolve? (shelf [("daily", older)]) "./daily/" = .ok (some older) ∧
      resolve? (shelf [("daily", older)]) ".//daily" = .ok none ∧
      (shelf [("daily[1]", older), ("daily1", newer)]).LeadsTo "daily[1]" ["daily[1]"] ∧
      latest? ((shelf [("daily[1]", older), ("daily1", newer)]).namesIn ["daily[1]"]) =
        some older ∧
      resolve? (shelf [("daily[1]", older), ("daily1", newer)]) "daily[1]" = .ok (some newer) ∧
      ¬ ∀ (fs : FileSystem) (place : FileTree.Place), fs.WellNamed →
        fs.LeadsTo "daily[1]" place →
          resolve? fs "daily[1]" = .ok (latest? (fs.namesIn place)) := by
  have isName : IsName "daily" := by constructor <;> decide
  have isName' : IsName "daily[1]" := by constructor <;> decide
  have wellNamed : (shelf [("daily", older)]).WellNamed :=
    wellNamed_shelf (by simp [isName, isName_older]) (by simp)
  have directory : (shelf [("daily", older)]).isDirectory ["daily"] = true := by cbv
  have named : (shelf [("daily", older)]).namesIn ["daily"] = [older] := by cbv
  have found : (shelf [("daily", older)]).place? "./daily/" = .ok ["daily"] := by cbv
  have found' : (shelf [("daily", older)]).place? ".//daily" = .ok ["daily"] := by cbv
  have steady : stumbles "./daily/" = false := by cbv
  have stumbling : stumbles ".//daily" = true := by cbv
  refine ⟨?_, ?_, ⟨?_, ?_⟩, ?_, ?_, ?_⟩
  · obtain ⟨right, -⟩ := locations_are_read_as_patterns "./daily/"
    rw [right (by decide) _ _ wellNamed ⟨found, directory⟩, steady, named, latest?_older]
    rfl
  · obtain ⟨right, -⟩ := locations_are_read_as_patterns ".//daily"
    rw [right (by decide) _ _ wellNamed ⟨found', directory⟩, stumbling]
    rfl
  · cbv
  · cbv
  · cbv
  · cbv
  · rw [(locations_are_read_as_patterns "daily[1]").2 isName']
    decide

end ClusterBackup.Snapshot
