/-
ClusterBackup.Proofs.Status.Spelling — which spellings of a state are
recognized.

`Spells` says what is read: a word with separators put in anywhere and its
letters in either case (`ofRaw?_eq_some_iff`). Eight spellings are agreed
on: the five words, and three with one separator between "not" and
"found". They are all recognized, and `isAgreed_iff` says what tells them
from the others: a spelling with a separator in any other place is
recognized too, and is none of the eight.

What is not recognized never becomes a state of a job.
-/
import ClusterBackup.Proofs.Metrics
import ClusterBackup.Proofs.Outcome
import ClusterBackup.Proofs.Workflow.Run

namespace ClusterBackup

namespace JobState

/-! ## Separators and letter case -/

/-- A text spells a word if it is the word, in letters of either case, with separators anywhere. -/
inductive Spells : (word text : List Char) → Prop where
  | done : Spells [] []
  | separator {c : Char} {word text : List Char} (between : isSeparator c = true)
      (rest : Spells word text) : Spells word (c :: text)
  | letter {c : Char} {word text : List Char} (solid : isSeparator c = false)
      (rest : Spells word text) : Spells (c.toLower :: word) (c :: text)

/-- What is left of a text without separators, in lower case, is the one word that it spells. -/
theorem spells_iff {word text : List Char} :
    Spells word text ↔ (text.filter (!isSeparator ·)).map Char.toLower = word := by
  constructor
  · intro spells
    induction spells with
    | done => rfl
    | separator between rest ih => simp [between, ih]
    | letter solid rest ih => simp [solid, ih]
  · rintro rfl
    induction text with
    | nil => exact .done
    | cons c text ih =>
      cases kept : isSeparator c with
      | true => simpa [kept] using Spells.separator kept ih
      | false => simpa [kept] using Spells.letter kept ih

theorem isSeparator_iff {c : Char} : isSeparator c = true ↔ c = '_' ∨ c = '-' ∨ c = ' ' := by
  simp [isSeparator, or_assoc]

/-- Separators have no letter case. -/
theorem toLower_of_isSeparator {c : Char} (between : isSeparator c = true) : c.toLower = c := by
  rcases isSeparator_iff.mp between with rfl | rfl | rfl <;> rfl

/-- No capital letter has a separator for its lower case. -/
theorem isSeparator_toLower (c : Char) : isSeparator c.toLower = isSeparator c := by
  have lower : c.toLower.toNat =
      if 65 ≤ c.toNat ∧ c.toNat ≤ 90 then c.toNat + 32 else c.toNat := by
    unfold Char.toLower
    simp only [ge_iff_le, UInt32.le_iff_toNat_le]
    split
    · next capital =>
      have capital : 65 ≤ c.toNat ∧ c.toNat ≤ 90 := capital
      rw [if_pos capital]
      change (c.val + 32).toNat = _
      rw [UInt32.toNat_add]
      change (c.toNat + 32) % 4294967296 = _
      omega
    · next other => exact (if_neg other).symm
  rw [Bool.eq_iff_iff, isSeparator_iff, isSeparator_iff]
  simp only [← Char.toNat_inj, lower]
  split
  · simp
    omega
  · rfl

/-! ## What is recognized -/

/-- **A text is recognized as the state whose name it spells**, white space at its ends aside. -/
theorem ofRaw?_eq_some_iff {raw : String} {state : JobState} :
    ofRaw? raw = some state ↔ Spells state.label.toList (Text.trim raw).toList := by
  have letters : state.label = String.ofList (normalize raw) ↔
      Spells state.label.toList (Text.trim raw).toList := by
    rw [spells_iff, Text.trim, String.toList_ofList, ← normalize, ← String.toList_inj,
      String.toList_ofList, eq_comm]
  rw [← letters, ofRaw?]
  constructor
  · intro found
    simpa using List.find?_some found
  · intro same
    rw [← same]
    cases state <;> rfl

/-! ## The spellings that are agreed on -/

/-- The spellings of a state that are agreed on. -/
def agreedSpellings : JobState → List String
  | notFound => ["notfound", "not_found", "not found", "not-found"]
  | state => [state.label]

/-- The text is one of the agreed spellings, but for white space at its ends and the case of its
letters. -/
def IsAgreed (raw : String) (state : JobState) : Prop :=
  ∃ spelling ∈ agreedSpellings state,
    (Text.trim raw).toList.map Char.toLower = spelling.toList.map Char.toLower

/-- No character is a separator. -/
def Solid (text : List Char) : Prop := ∀ c ∈ text, isSeparator c = false

instance (text : List Char) : Decidable (Solid text) :=
  List.decidableBAll (fun c => isSeparator c = false) text

/-- One separator, after three characters. -/
def DividedAfterThree (text : List Char) : Prop :=
  ∃ before c after, text = before ++ c :: after ∧ before.length = 3 ∧ isSeparator c = true ∧
    Solid before ∧ Solid after

/-- A text has the separators of its lower case. -/
theorem solid_map_toLower {text : List Char} : Solid (text.map Char.toLower) ↔ Solid text := by
  simp [Solid, isSeparator_toLower]

theorem Solid.filter_eq {text : List Char} (solid : Solid text) :
    text.filter (!isSeparator ·) = text :=
  List.filter_eq_self.mpr fun c inside => by simp [solid c inside]

/-- A text without separators spells what it is in lower case. -/
theorem spells_of_solid {word text : List Char} (solid : Solid text) :
    Spells word text ↔ text.map Char.toLower = word := by
  rw [spells_iff, solid.filter_eq]

/-- The name of a state has no separators. -/
theorem solid_label (state : JobState) : Solid state.label.toList := by
  cases state <;> decide

theorem map_toLower_label (state : JobState) :
    state.label.toList.map Char.toLower = state.label.toList := by
  cases state <;> rfl

/-- What is agreed on, in lower case: the name of the state, or the two parts of one name. -/
theorem isAgreed_iff_lower {raw : String} {state : JobState} :
    IsAgreed raw state ↔ (Text.trim raw).toList.map Char.toLower = state.label.toList ∨
      state = notFound ∧ ∃ c, isSeparator c = true ∧
        (Text.trim raw).toList.map Char.toLower = "not".toList ++ c :: "found".toList := by
  by_cases parted : state = notFound
  · subst parted
    constructor
    · rintro ⟨spelling, agreed, same⟩
      simp only [agreedSpellings, List.mem_cons, List.not_mem_nil, or_false] at agreed
      rcases agreed with rfl | rfl | rfl | rfl
      · exact .inl same
      · exact .inr ⟨rfl, '_', rfl, same⟩
      · exact .inr ⟨rfl, ' ', rfl, same⟩
      · exact .inr ⟨rfl, '-', rfl, same⟩
    · rintro (same | ⟨-, c, between, same⟩)
      · exact ⟨"notfound", by simp [agreedSpellings], same⟩
      · rcases isSeparator_iff.mp between with rfl | rfl | rfl
        · exact ⟨"not_found", by simp [agreedSpellings], same⟩
        · exact ⟨"not-found", by simp [agreedSpellings], same⟩
        · exact ⟨"not found", by simp [agreedSpellings], same⟩
  · have only : agreedSpellings state = [state.label] := by
      cases state with
      | notFound => exact absurd rfl parted
      | _ => rfl
    simp [IsAgreed, only, map_toLower_label, parted]

/-- A text in two parts spells "notfound" if the parts spell "not" and "found". -/
theorem spells_notFound_of_divided {c : Char} {before after : List Char} (three : before.length = 3)
    (between : isSeparator c = true) (solid : Solid before) (solid' : Solid after) :
    Spells notFound.label.toList (before ++ c :: after) ↔
      before.map Char.toLower = "not".toList ∧ after.map Char.toLower = "found".toList := by
  have parts : (before ++ c :: after).filter (!isSeparator ·) = before ++ after := by
    simp [List.filter_append, between, solid.filter_eq, solid'.filter_eq]
  have word : notFound.label.toList = "not".toList ++ "found".toList := rfl
  rw [spells_iff, parts, List.map_append, word]
  constructor
  · intro same
    exact List.append_inj same (by rw [List.length_map, three]; rfl)
  · rintro ⟨first, second⟩
    rw [first, second]

/-- **The spellings that are agreed on are recognized**, and among all that are recognized they are
those with no separator, or with a single one between "not" and "found". -/
theorem isAgreed_iff {raw : String} {state : JobState} :
    IsAgreed raw state ↔ ofRaw? raw = some state ∧
      (Solid (Text.trim raw).toList ∨
        state = notFound ∧ DividedAfterThree (Text.trim raw).toList) := by
  rw [isAgreed_iff_lower, ofRaw?_eq_some_iff]
  generalize (Text.trim raw).toList = text
  constructor
  · rintro (same | ⟨rfl, d, between, same⟩)
    · have solid : Solid text := solid_map_toLower.mp (same ▸ solid_label state)
      exact ⟨(spells_of_solid solid).mpr same, .inl solid⟩
    · obtain ⟨before, rest, rfl, first, last⟩ := List.map_eq_append_iff.mp same
      obtain ⟨c, after, rfl, rfl, second⟩ := List.map_eq_cons_iff.mp last
      have three : before.length = 3 := by rw [← List.length_map Char.toLower, first]; rfl
      have between : isSeparator c = true := by rwa [← isSeparator_toLower]
      have solid : Solid before := solid_map_toLower.mp (first ▸ by decide)
      have solid' : Solid after := solid_map_toLower.mp (second ▸ by decide)
      refine ⟨(spells_notFound_of_divided three between solid solid').mpr ⟨first, second⟩, ?_⟩
      exact .inr ⟨rfl, before, c, after, rfl, three, between, solid, solid'⟩
  · rintro ⟨spells, solid | ⟨rfl, before, c, after, rfl, three, between, solid, solid'⟩⟩
    · exact .inl ((spells_of_solid solid).mp spells)
    · obtain ⟨first, second⟩ := (spells_notFound_of_divided three between solid solid').mp spells
      refine .inr ⟨rfl, c, between, ?_⟩
      rw [List.map_append, List.map_cons, first, second, toLower_of_isSeparator between]

end JobState

namespace JobStatus

/-! ## Queries -/

/-- The answer to a state that is not recognized. -/
def unrecognized (requestId : String) (raw : RawJobStatus) : Error :=
  .protocol ("unrecognized state '" ++ raw.state ++ "' for request " ++ requestId)

/-- A status is made exactly of a state that is recognized. -/
theorem ofRaw?_eq_error_iff {requestId : String} {raw : RawJobStatus} {e : Error} :
    ofRaw? requestId raw = .error e ↔
      JobState.ofRaw? raw.state = none ∧ e = unrecognized requestId raw := by
  unfold ofRaw?
  cases JobState.ofRaw? raw.state with
  | none => simp [unrecognized, eq_comm]
  | some state => simp

variable {σ : Type} (client : Client σ)

/-- A query that is answered has the outcome of what the answer means. -/
theorem result_query_of_answered {operation : Operation} {requestId : String} {s : σ}
    {raw : RawJobStatus} (something : Text.trim requestId ≠ "")
    (answered : (client.answer (.queryStatus (Text.trim requestId)) s).1 = .ok raw) :
    ((query operation requestId).run client s).result =
      match ofRaw? (Text.trim requestId) raw with
      | .ok status => status.outcome operation
      | .error e => Outcome.ofError e := by
  unfold query fetch
  simp only [something, if_false, Workflow.bind_eq, Workflow.call, Workflow.ask_bind,
    Workflow.done_bind, Workflow.run_ask, answered, Workflow.pure_eq_done]
  cases ofRaw? (Text.trim requestId) raw <;> rfl

end JobStatus

namespace JobState

/-- **Separators are read past, wherever they are.** A text is recognized exactly if it spells the
name of a state; the spellings that are agreed on are those among them with no separator, or with
a single one between "not" and "found". Whatever is not recognized is an answer that is not
understood: a query that meets it fails for the transport and tells no state. -/
theorem separators_are_read_past (raw : RawJobStatus) :
    (∀ state, ofRaw? raw.state = some state ↔
      Spells state.label.toList (Text.trim raw.state).toList) ∧
    (∀ state, IsAgreed raw.state state ↔ ofRaw? raw.state = some state ∧
      (Solid (Text.trim raw.state).toList ∨
        state = notFound ∧ DividedAfterThree (Text.trim raw.state).toList)) ∧
    (∀ id, ofRaw? raw.state = none ↔
      JobStatus.ofRaw? id raw = .error (JobStatus.unrecognized id raw)) ∧
    ∀ (σ : Type) (client : Client σ) (operation : Operation) (id : String) (s : σ),
      Text.trim id ≠ "" →
      (client.answer (.queryStatus (Text.trim id)) s).1 = .ok raw →
      let o := ((JobStatus.query operation id).run client s).result
      o.jobStatus.map (·.state) = ofRaw? raw.state ∧
        (ofRaw? raw.state = none →
          o = Outcome.ofError (JobStatus.unrecognized (Text.trim id) raw) ∧
            o.success = false ∧ o.kind = some .transportFailure) := by
  refine ⟨fun state => ofRaw?_eq_some_iff, fun state => isAgreed_iff,
    fun id => ?_, fun σ client operation id s something answered => ?_⟩
  · simp [JobStatus.ofRaw?_eq_error_iff]
  · intro o
    have outcome : o = _ := JobStatus.result_query_of_answered client something answered
    cases known : ofRaw? raw.state with
    | none =>
      have refused : JobStatus.ofRaw? (Text.trim id) raw = .error _ :=
        JobStatus.ofRaw?_eq_error_iff.mpr ⟨known, rfl⟩
      rw [refused] at outcome
      rw [outcome]
      exact ⟨rfl, fun _ => ⟨rfl, rfl, rfl⟩⟩
    | some state =>
      rw [JobStatus.ofRaw?, known] at outcome
      rw [outcome, Outcome.jobStatus_outcome]
      exact ⟨rfl, nofun⟩

/-- A cluster that finds every job paused. -/
def pausing : Client Unit where
  name := "pausing"
  answer call s :=
    match call with
    | .queryStatus _ => (.ok (.ofState "paused"), s)
    | _ => (.error (.connection "refused"), s)

/-- A hyphen within a word is read past, though no such spelling is agreed on; a word that is not
known is refused. -/
theorem separators_are_read_past_hyphen :
    ofRaw? "com-pleted" = some completed ∧ ¬ IsAgreed "com-pleted" completed ∧
      ((JobStatus.query .backup "r1").run pausing ()).result =
        Outcome.ofError (.protocol "unrecognized state 'paused' for request r1") := by
  obtain ⟨-, agreed, -⟩ := separators_are_read_past (.ofState "com-pleted")
  obtain ⟨-, -, -, queried⟩ := separators_are_read_past (.ofState "paused")
  have recognized : ofRaw? "com-pleted" = some completed := by decide
  refine ⟨recognized, ?_, ?_⟩
  · intro spelling
    obtain ⟨-, solid | ⟨other, -⟩⟩ := (agreed completed).mp spelling
    · exact absurd solid (by decide)
    · cases other
  · have paused := (queried Unit pausing .backup "r1" () (by decide) rfl).2
    exact (paused (by decide)).1

end JobState

end ClusterBackup
