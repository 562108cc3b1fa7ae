/-
ClusterBackup.Proofs.Failures — the failures that a cluster lists, from its
answer to the report.

A cluster writes its list in one of three shapes (`Lists`), and all of them
are read back as the list they write. A response that refuses an operation
ends every errand that asked for the operation: the outcome is a failure
and has the list of the response. So does a query that found a failed job.
The report has a line for each entry, in their order, after the message.
-/
import ClusterBackup.Admin.Json
import ClusterBackup.Proofs.Outcome.WellFormed
import ClusterBackup.Proofs.Restore.Protocol

namespace ClusterBackup

/-! ## Lists as they are sent -/

namespace FailureDetail

/-- A value writes a list of failures: as an object, as an array of pairs, or as names and values
in turn. -/
inductive Lists (L : List FailureDetail) : Json → Prop where
  | object (distinct : (L.map (·.name)).Nodup) :
      Lists L (.object (L.map fun e => (e.name, .string e.value)))
  | pairs : Lists L (.array (L.map fun e => .array [.string e.name, .string e.value]))
  | inTurn : Lists L (.array (L.flatMap fun e => [.string e.name, .string e.value]))

theorem inTurn_flatMap (L : List FailureDetail) :
    inTurn (L.flatMap fun e => [.string e.name, .string e.value]) = L := by
  induction L with
  | nil => rfl
  | cons e rest ih => simp [inTurn, ofValues, textOf, ih]

theorem mapM_ofPair?_map (L : List FailureDetail) :
    (L.map fun e => Json.array [.string e.name, .string e.value]).mapM ofPair? = some L := by
  induction L with
  | nil => rfl
  | cons e rest ih => simp [ofPair?, ofValues, textOf, ih]

/-- Names and values in turn are not taken for pairs, unless there are none. -/
theorem mapM_ofPair?_flatMap {L : List FailureDetail} (some_failure : L ≠ []) :
    (L.flatMap fun e => [Json.string e.name, .string e.value]).mapM ofPair? = none := by
  cases L with
  | nil => contradiction
  | cons e rest => simp [ofPair?]

/-- Each shape is read back as the list that it writes. -/
theorem listOf_of_lists {L : List FailureDetail} {v : Json} (h : Lists L v) :
    listOf (some v) = L := by
  cases h with
  | object distinct => simp [listOf, Function.comp_def, textOf]
  | pairs => rw [listOf, mapM_ofPair?_map]
  | inTurn =>
    cases L with
    | nil => rfl
    | cons e rest => rw [listOf, mapM_ofPair?_flatMap (by simp), inTurn_flatMap]

end FailureDetail

/-! ## Lists in a report -/

namespace Report

/-- A report is the message with a line after it for each failure. -/
theorem render_eq (o : Outcome) :
    render o = o.message ++ String.join ((errorLines o.errors).map ("\n" ++ ·)) := by
  rw [render]
  generalize errorLines o.errors = lines
  generalize o.message = message
  induction lines generalizing message with
  | nil => simp
  | cons line rest ih =>
    rw [String.intercalate_cons_cons, ih, List.map_cons, String.join_cons]
    simp only [String.append_assoc]

end Report

/-! ## Refusals -/

/-- The cluster answered an operation with a response, or a job that was to be queued with a
response instead of its acceptance. -/
inductive Exchange.Responded (r : AdminResponse) : Exchange → Prop where
  | delete (c : Collection) : Responded r ⟨.delete c, .ok r⟩
  | backup (q : SnapshotRequest) : Responded r ⟨.backup q, .ok r⟩
  | restore (q : SnapshotRequest) : Responded r ⟨.restore q, .ok r⟩
  | submitBackup (q : SnapshotRequest) : Responded r ⟨.submitBackup q, .ok (.rejected r)⟩
  | submitRestore (q : SnapshotRequest) : Responded r ⟨.submitRestore q, .ok (.rejected r)⟩

section

variable {t : List Exchange} {o : Outcome} {x : Exchange} {r : AdminResponse}

theorem Backup.Course.of_responded {spec : BackupSpec} (course : Course spec t o) (made : x ∈ t)
    (responded : x.Responded r) (failure : r.isSuccess = false) :
    o.success = false ∧ o.errors = r.errors := by
  cases course with
  | unanswered mode e =>
    obtain rfl := List.mem_singleton.mp made
    cases responded
  | answered mode r =>
    obtain rfl := List.mem_singleton.mp made
    cases responded
    simp [failure]
  | unsubmitted mode e =>
    obtain rfl := List.mem_singleton.mp made
    cases responded
  | submitted mode answer =>
    obtain rfl := List.mem_singleton.mp made
    cases responded
    simp

theorem Restore.Ending.of_responded {spec : RestoreSpec} {q : SnapshotRequest}
    (ending : Ending spec q t o) (made : x ∈ t) (responded : x.Responded r)
    (failure : r.isSuccess = false) : o.success = false ∧ o.errors = r.errors := by
  cases ending with
  | unsubmitted mode e =>
    obtain rfl := List.mem_singleton.mp made
    cases responded
  | submitted mode answer =>
    obtain rfl := List.mem_singleton.mp made
    cases responded
    simp
  | unanswered mode e =>
    obtain rfl := List.mem_singleton.mp made
    cases responded
  | unrestored mode r' failure' =>
    obtain rfl := List.mem_singleton.mp made
    cases responded
    simp [failure]
  | restored mode r' success answer =>
    simp only [List.mem_cons, List.not_mem_nil, or_false] at made
    rcases made with rfl | rfl
    · cases responded
      rw [success] at failure
      contradiction
    · cases responded

/-- Whatever step of a restore is refused, the restore ends there. -/
theorem Restore.Course.of_responded {spec : RestoreSpec} (course : Course spec t o)
    (made : x ∈ t) (responded : x.Responded r) (failure : r.isSuccess = false) :
    o.success = false ∧ o.errors = r.errors := by
  cases course with
  | unprepared e =>
    obtain rfl := List.mem_singleton.mp made
    cases responded
  | unchecked q e =>
    simp only [List.mem_cons, List.not_mem_nil, or_false] at made
    rcases made with rfl | rfl <;> cases responded
  | refused q force =>
    simp only [List.mem_cons, List.not_mem_nil, or_false] at made
    rcases made with rfl | rfl <;> cases responded
  | undeleted q force e =>
    simp only [List.mem_cons, List.not_mem_nil, or_false] at made
    rcases made with rfl | rfl | rfl <;> cases responded
  | deletionRefused q force r' failure' =>
    simp only [List.mem_cons, List.not_mem_nil, or_false] at made
    rcases made with rfl | rfl | rfl
    · cases responded
    · cases responded
    · cases responded
      exact ⟨rfl, rfl⟩
  | absent q rest =>
    simp only [List.mem_cons] at made
    rcases made with rfl | rfl | made
    · cases responded
    · cases responded
    · exact rest.of_responded made responded failure
  | replaced q force r' success rest =>
    simp only [List.mem_cons] at made
    rcases made with rfl | rfl | rfl | made
    · cases responded
    · cases responded
    · cases responded
      rw [success] at failure
      contradiction
    · exact rest.of_responded made responded failure

/-- **An errand fails with the list of the response that refused it**, whichever of its steps that
was. -/
theorem Errand.Course.of_responded {errand : Errand} (course : errand.Course t o) (made : x ∈ t)
    (responded : x.Responded r) (failure : r.isSuccess = false) :
    o.success = false ∧ o.errors = r.errors := by
  cases errand with
  | backup spec => exact Backup.Course.of_responded course made responded failure
  | restore spec => exact Restore.Course.of_responded course made responded failure
  | query operation requestId =>
    cases course with
    | blank nothing => cases made
    | unanswered something e =>
      obtain rfl := List.mem_singleton.mp made
      cases responded
    | unrecognized something unknown =>
      obtain rfl := List.mem_singleton.mp made
      cases responded
    | recognized something known =>
      obtain rfl := List.mem_singleton.mp made
      cases responded
  | refuse e =>
    obtain ⟨rfl, -⟩ := course
    cases made

/-- Only queries ask for the status of a job. -/
theorem Errand.Course.query_of_made {errand : Errand} (course : errand.Course t o) {id : String}
    (made : Made t (.queryStatus id)) :
    ∃ operation requestId, errand = .query operation requestId ∧ id = Text.trim requestId := by
  cases errand with
  | backup spec => cases course <;> simp at made
  | restore spec =>
    obtain ⟨q, order⟩ := Restore.Course.order course
    have listed : .queryStatus id = Restore.carried spec q := by
      simpa [Restore.script] using order.subset made
    exact absurd listed.symm (Restore.carried_ne_queryStatus spec q id)
  | query operation requestId =>
    refine ⟨operation, requestId, rfl, ?_⟩
    cases course with
    | blank nothing => simp at made
    | unanswered something e => simpa using made
    | unrecognized something unknown => simpa using made
    | recognized something known => simpa using made
  | refuse e =>
    obtain ⟨rfl, -⟩ := course
    simp at made

/-- A query that found a failed job is a failure with what was listed for the job. -/
theorem Errand.Course.of_failed_job {errand : Errand} (course : errand.Course t o) {id : String}
    {raw : RawJobStatus} (answered : Answered t (.queryStatus id) (.ok raw))
    (failed : JobState.ofRaw? raw.state = some .failed) :
    o.success = false ∧ o.errors = raw.errors := by
  obtain ⟨operation, requestId, rfl, rfl⟩ := course.query_of_made answered.made
  have status := (course.settles.jobStatus_iff _).mpr (.query answered failed)
  have wellFormed := course.settles.wellFormed
  refine ⟨?_, wellFormed.errors_of_status _ status⟩
  rw [Bool.eq_false_iff, ne_eq, wellFormed.success_of_status _ status]
  simp

end

end ClusterBackup
