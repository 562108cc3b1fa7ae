/-
ClusterBackup.Proofs.Registry — which registration settings are handed to.

`Registry.registerAll` builds a registry registration by registration, and
`create_registerAll` says what becomes of settings without looking into
the registry: they go to the first registration whose name, up to letter
case, is the kind that they ask for without the white space at its ends.

Names are registered with their white space. So settings that ask for a
registered name find it exactly if there is nothing to trim from the name:
`lowercase_trim_eq_iff` says that trimming a text can be seen in its lower
case, since a lower case has at least one character for every character.
-/
import ClusterBackup.Registry
import ClusterBackup.Proofs.Text.Blank
import Mathlib.Data.List.Sublists

namespace ClusterBackup

namespace Text

/-! ## Trimming and letter case -/

/-- In lower case, a text is as long as it was, save that a capital I with a dot above is two
characters. -/
theorem length_lowerAfter (before cs : List Char) :
    (lowerAfter before cs).length = cs.length + cs.countP (·.toNat == 0x130) := by
  induction cs generalizing before with
  | nil => rfl
  | cons c rest ih =>
    have head : ∀ lower : List Char, (lower ++ lowerAfter (c :: before) rest).length =
        lower.length + (rest.length + rest.countP (·.toNat == 0x130)) := fun lower => by
      rw [List.length_append, ih]
    rw [lowerAfter, head, List.length_cons, List.countP_cons]
    by_cases sigma : c = capitalSigma
    · have plain : (capitalSigma.toNat == 0x130) = false := by decide
      subst sigma
      simp only [beq_self_eq_true, if_true, plain]
      split <;> simp <;> omega
    · by_cases dotted : c.toNat = 0x130 <;> simp [sigma, dotted] <;> omega

theorem trimChars_sublist (cs : List Char) : (trimChars cs).Sublist cs :=
  (dropSpaceEnd_isPrefix _).sublist.trans (List.dropWhile_sublist _)

/-- Trimming a text can be seen in its lower case. -/
theorem lowercase_trim_eq_iff (s : String) : lowercase (trim s) = lowercase s ↔ trim s = s := by
  constructor
  · intro same
    have fewer := trimChars_sublist s.toList
    have lengths := congrArg List.length (congrArg String.toList same)
    simp only [lowercase, trim, String.toList_ofList, length_lowerAfter] at lengths
    have shorter := fewer.length_le
    have rarer : _ ≤ s.toList.countP (·.toNat == 0x130) := fewer.countP_le
    rw [trim, fewer.eq_of_length (by omega), String.ofList_toList]
  · intro trimmed
    rw [trimmed]

end Text

namespace Registry

variable {α : Type}

/-- A name, and what makes an `α` from settings that ask for it. -/
abbrev Registration (α : Type) : Type := String × (Config → Except Error α)

/-- The registry after registrations, one behind another. -/
def registerAll (r : Registry α) (rs : List (Registration α)) : Registry α :=
  rs.foldl (fun r p => r.register p.1 p.2) r

/-- Two names differ in letter case at most. -/
def SameName (a b : String) : Prop := Text.lowercase a = Text.lowercase b

instance (a b : String) : Decidable (SameName a b) :=
  inferInstanceAs (Decidable (Text.lowercase a = Text.lowercase b))

/-- The earliest registration under a name, whatever its letter case. -/
def earliest? (rs : List (Registration α)) (name : String) : Option (Registration α) :=
  rs.find? fun p => SameName p.1 name

/-! ## What a registry holds -/

theorem entries_registerAll (r : Registry α) (rs : List (Registration α)) :
    (r.registerAll rs).entries = r.entries ++ rs.map fun p => (Text.lowercase p.1, p.2) := by
  induction rs generalizing r with
  | nil => simp [registerAll]
  | cons p rs ih =>
    change ((r.register p.1 p.2).registerAll rs).entries = _
    rw [ih, register, List.map_cons, List.append_assoc]
    rfl

theorem registerAll_append (r : Registry α) (rs rs' : List (Registration α)) :
    r.registerAll (rs ++ rs') = (r.registerAll rs).registerAll rs' := List.foldl_append

/-- Looking a name up in lower case finds the earliest registration under it. -/
theorem lookup_registered (rs : List (Registration α)) (name : String) :
    (rs.map fun p => (Text.lowercase p.1, p.2)).lookup (Text.lowercase name) =
      (earliest? rs name).map (·.2) := by
  induction rs with
  | nil => rfl
  | cons p rs ih =>
    rw [List.map_cons, List.lookup_cons, ih, earliest?, earliest?, List.find?_cons]
    by_cases same : Text.lowercase name = Text.lowercase p.1
    · simp [SameName, same]
    · have other : ¬ SameName p.1 name := fun equal => same equal.symm
      simp [beq_eq_false_iff_ne.mpr same, other]

/-- Settings are handed to the earliest registration under the kind that they ask for, trimmed;
without one they are refused. -/
theorem create_registerAll (rs : List (Registration α)) (c : Config) :
    (empty.registerAll rs).create c =
      match earliest? rs (Text.trim c.clientKind) with
      | some p => p.2 c
      | none => .error (unknownKind c.clientKind (rs.map fun p => Text.lowercase p.1)) := by
  have found := lookup_registered rs (Text.trim c.clientKind)
  rw [create, entries_registerAll, empty, List.nil_append, wantedKey, found]
  cases earliest? rs (Text.trim c.clientKind) with
  | some p => rfl
  | none => simp [keys, entries_registerAll, Function.comp_def]

/-! ## Registered names that are found -/

/-- Names registered behind `first` are found: settings that ask for one are handed, as they are, to
the earliest registration under that name, and what it makes of them is the answer. -/
def Finds (first : List (Registration α)) (name : String) : Prop :=
  ∀ rs : List (Registration α), name ∈ rs.map (·.1) → ∀ c : Config, c.clientKind = name →
    ∃ p, earliest? (first ++ rs) name = some p ∧
      (empty.registerAll (first ++ rs)).create c = p.2 c

/-- A registered name has an earliest registration. -/
theorem exists_earliest {rs : List (Registration α)} {name : String}
    (registered : name ∈ rs.map (·.1)) (first : List (Registration α)) :
    ∃ p, earliest? (first ++ rs) name = some p := by
  obtain ⟨p, inside, rfl⟩ := List.mem_map.mp registered
  refine Option.isSome_iff_exists.mp (List.find?_isSome.mpr ⟨p, ?_, ?_⟩)
  · exact List.mem_append_right first inside
  · simp [SameName]

theorem finds_of_trimmed {name : String} (trimmed : Text.trim name = name)
    (first : List (Registration α)) : Finds first name := by
  intro rs registered c asks
  obtain ⟨p, earliest⟩ := exists_earliest registered first
  refine ⟨p, earliest, ?_⟩
  rw [create_registerAll, asks, trimmed, earliest]

/-- What makes an error that no registry makes. -/
def shadow : Config → Except Error α := fun _ => .error (.internal "shadowed")

/-- Where answers tell registrations apart, a name with white space at an end is not found. -/
theorem not_finds_of_untrimmed {name : String} (untrimmed : Text.trim name ≠ name)
    {first : List (Registration α)}
    (apart : ∀ p ∈ first ++ [(name, shadow)], ∀ q ∈ first ++ [(name, shadow)],
      p.2 { clientKind := name } = q.2 { clientKind := name } → p = q)
    (own : ∀ p ∈ first ++ [(name, shadow)], ∀ known,
      p.2 { clientKind := name } ≠ .error (unknownKind name known)) : ¬ Finds first name := by
  intro finds
  obtain ⟨p, earliest, answer⟩ := finds [(name, shadow)] (by simp) { clientKind := name } rfl
  have inside := List.mem_of_find?_eq_some earliest
  have named : SameName p.1 name := by simpa using List.find?_some earliest
  rw [create_registerAll] at answer
  cases trimmed : earliest? (first ++ [(name, shadow)]) (Text.trim name) with
  | none =>
    rw [trimmed] at answer
    exact own p inside _ answer.symm
  | some q =>
    rw [trimmed] at answer
    have same : q = p := apart q (List.mem_of_find?_eq_some trimmed) p inside answer
    subst same
    have asked : SameName q.1 (Text.trim name) := by simpa using List.find?_some trimmed
    exact untrimmed ((Text.lowercase_trim_eq_iff name).mp (asked.symm.trans named))

theorem finds_nil_iff (name : String) :
    Finds ([] : List (Registration α)) name ↔ Text.trim name = name := by
  refine ⟨fun finds => Decidable.byContradiction fun untrimmed => ?_,
    fun h => finds_of_trimmed h []⟩
  exact not_finds_of_untrimmed untrimmed (by simp) (by simp [shadow, unknownKind]) finds

/-- The registrations of the standard registry. -/
def standardRegistrations : List (Registration ClientChoice) :=
  [("http", ClientChoice.makeHttp), ("memory", ClientChoice.makeSimulated)]

/-- Settings that say nothing but a kind are usable. -/
theorem makeHttp_kind (name : String) :
    ClientChoice.makeHttp { clientKind := name } = .ok (.http { clientKind := name }) := by
  have solid : Text.isBlank ({} : Config).baseUrl = false := by decide
  have valid : ({ clientKind := name } : Config).validate = .ok () := by
    simpa [Config.validate] using solid
  rw [ClientChoice.makeHttp, valid]
  rfl

theorem finds_standard_iff (name : String) :
    Finds standardRegistrations name ↔ Text.trim name = name := by
  refine ⟨fun finds => Decidable.byContradiction fun untrimmed => ?_,
    fun h => finds_of_trimmed h standardRegistrations⟩
  refine not_finds_of_untrimmed untrimmed ?_ ?_ finds
  · simp [standardRegistrations, makeHttp_kind, ClientChoice.makeSimulated, shadow]
  · simp [standardRegistrations, makeHttp_kind, ClientChoice.makeSimulated, shadow, unknownKind]

/-- Registering behind the standard registry is registering behind its registrations. -/
theorem standard_registerAll (rs : List (Registration ClientChoice)) :
    standard.registerAll rs = empty.registerAll (standardRegistrations ++ rs) :=
  (registerAll_append empty standardRegistrations rs).symm

/-- **Registered names are found exactly if there is nothing to trim from them.** Whatever is
registered, in whatever order, settings that ask for a name are handed to the earliest registration
under the trimmed name, up to letter case, and refused only if there is none. So those that ask for
a registered name in its own words are handed to the earliest registration under it, from an empty
registry on and from the standard one on, if the name has no white space at its ends; otherwise
there are registrations with which they are not. -/
theorem registered_names_are_found_iff_trimmed (name : String) :
    (∀ {α : Type} (rs : List (Registration α)) (c : Config), c.clientKind = name →
      (empty.registerAll rs).create c =
        match earliest? rs (Text.trim name) with
        | some p => p.2 c
        | none => .error (unknownKind name (rs.map fun p => Text.lowercase p.1))) ∧
    (∀ rs, standard.registerAll rs = empty.registerAll (standardRegistrations ++ rs)) ∧
    (∀ α : Type, Finds ([] : List (Registration α)) name ↔ Text.trim name = name) ∧
    (Finds standardRegistrations name ↔ Text.trim name = name) := by
  refine ⟨?_, standard_registerAll, fun _ => finds_nil_iff name, finds_standard_iff name⟩
  rintro α rs c rfl
  exact create_registerAll rs c

/-- A simulated cluster that is registered under a name with spaces around it is not found under
that name. -/
theorem registered_names_are_found_iff_trimmed_spaces :
    (empty.register " memory " ClientChoice.makeSimulated).create { clientKind := " memory " } =
        .error (unknownKind " memory " [" memory "]) ∧
      ¬ Finds ([] : List (Registration ClientChoice)) " memory " := by
  obtain ⟨create_eq, -, finds_iff, -⟩ := registered_names_are_found_iff_trimmed " memory "
  refine ⟨?_, fun finds => ?_⟩
  · have refused := create_eq [(" memory ", ClientChoice.makeSimulated)]
      { clientKind := " memory " } rfl
    have unknown : earliest? [(" memory ", ClientChoice.makeSimulated)] (Text.trim " memory ") =
        none := by decide +kernel
    rw [unknown] at refused
    exact refused.trans (by decide +kernel)
  · have trimmed := (finds_iff _).mp finds
    exact absurd trimmed (by decide)

end Registry

end ClusterBackup
