/-
ClusterBackup.Proofs.Json.RoundTrip — what is written as JSON is read back
as it was.

The parts are known: a request of either kind is read back from the draft
of its JSON, and an outcome from its text. What is left is the name of a
collection, which is the one text that is not taken as it stands: reading
trims it and refuses a blank one. Nothing is lost by that, because a
collection has no other way into the program than through the same gate,
and what has passed the gate passes it unchanged.
-/
import ClusterBackup.Proofs.Invocation.Json
import ClusterBackup.Proofs.Outcome.Json
import ClusterBackup.Proofs.Text.Blank

namespace ClusterBackup

open Json (Draft Fault)

/-! ## Collections -/

namespace Collection

theorem isBlank_name (c : Collection) : Text.isBlank c.name = false := by
  rw [Bool.eq_false_iff, ne_eq, ← Text.trim_eq_empty_iff, c.trimmed]
  exact c.nonempty

/-- A text names a collection exactly if it is not blank, and it names the one that is called like
the text without the white space at its ends. -/
theorem ofName?_eq_ok_iff {s : String} {c : Collection} :
    ofName? s = .ok c ↔ Text.isBlank s = false ∧ c.name = Text.trim s := by
  have blank := Text.trim_eq_empty_iff s
  constructor
  · intro named
    unfold ofName? at named
    split at named
    · cases named
    · next something =>
      cases named
      exact ⟨by rwa [blank, Bool.not_eq_true] at something, rfl⟩
  · rintro ⟨solid, same⟩
    have something : Text.trim s ≠ "" := by
      rw [ne_eq, blank, solid]
      exact Bool.false_ne_true
    obtain ⟨name, trimmed, nonempty⟩ := c
    subst same
    rw [ofName?, dif_neg something]

end Collection

/-- A collection that is read from JSON is the one that its text names. -/
theorem Json.Draft.collection?_eq_ok_iff {d : Draft} {c : Collection} :
    d.collection? = .ok c ↔ ∃ s, d = .string (some s) ∧ Collection.ofName? s = .ok c := by
  constructor
  · intro read
    unfold collection? at read
    cases text : d.text? with
    | error fault =>
      rw [text] at read
      cases read
    | ok s =>
      rw [text, ok_bind] at read
      refine ⟨s, ?_, ?_⟩
      · unfold text? at text
        split at text
        · cases text
          rfl
        · cases text
      · cases named : Collection.ofName? s with
        | error e =>
          rw [named] at read
          cases read
        | ok c' =>
          rw [named] at read
          cases read
          rfl
  · rintro ⟨s, rfl, named⟩
    rw [collection?, text?, ok_bind, named]
    rfl

/-! ## Requests -/

namespace JobRequest

variable {S : Type} [FlatSpec S] [LawfulFlatSpec S]

/-- A request is read back from its text. -/
theorem readText_write (r : JobRequest S) : Json.readText read r.toJson.write = .ok r :=
  Json.readText_write r.numberless_toJson r.read_toJson

/-- What a request settles on, it settles on after it was written and read. -/
theorem resolve_readText_write (r : JobRequest S) :
    (Json.readText read r.toJson.write).map resolve = .ok r.resolve := by
  rw [r.readText_write]
  rfl

end JobRequest

/-! ## All of it -/

/-- **What is written as JSON is read back as it was.** A request of either kind, whatever strings
it holds, comes back from its text and settles on the same invocation; so does an outcome, whichever
of its parts are missing. A collection is never blank and has nothing to trim, whether a text named
it or JSON did, and each of the two makes a collection of every text that is not blank. -/
theorem written_is_read_back :
    (∀ r : JobRequest BackupSpec,
      Json.readText JobRequest.read r.toJson.write = .ok r ∧
      (Json.readText (JobRequest.read (S := BackupSpec)) r.toJson.write).map JobRequest.resolve =
        .ok r.resolve) ∧
    (∀ r : JobRequest RestoreSpec,
      Json.readText JobRequest.read r.toJson.write = .ok r ∧
      (Json.readText (JobRequest.read (S := RestoreSpec)) r.toJson.write).map JobRequest.resolve =
        .ok r.resolve) ∧
    (∀ o : Outcome, Json.readText Outcome.read o.toJson.write = .ok o) ∧
    (∀ c : Collection, Text.isBlank c.name = false ∧ Text.trim c.name = c.name) ∧
    (∀ (s : String) (c : Collection),
      Collection.ofName? s = .ok c ↔ Text.isBlank s = false ∧ c.name = Text.trim s) ∧
    ∀ (d : Draft) (c : Collection), d.collection? = .ok c ↔
      ∃ s, d = .string (some s) ∧ Text.isBlank s = false ∧ c.name = Text.trim s := by
  refine ⟨?_, ?_, ?_, ?_, ?_, ?_⟩
  · intro r
    exact ⟨r.readText_write, r.resolve_readText_write⟩
  · intro r
    exact ⟨r.readText_write, r.resolve_readText_write⟩
  · intro o
    exact o.readText_write
  · intro c
    exact ⟨c.isBlank_name, c.trimmed⟩
  · intro s c
    exact Collection.ofName?_eq_ok_iff
  · intro d c
    simp only [Json.Draft.collection?_eq_ok_iff, Collection.ofName?_eq_ok_iff]

end ClusterBackup
