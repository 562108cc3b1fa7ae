/-
ClusterBackup.Proofs.Http.Optimize — which collection an optimization is
asked for.

The name of a collection is written into the path of the URL as it is, and
then the URL is read. The request arrives at the collection under the base
URL exactly if its name stands in a path as a segment that says just the
name. Reading loses something of any other name, because the path cannot
say more than is written between its slashes (`isSegment_of_weight`): so
there is no other way in which the right segments could come about.
-/
import ClusterBackup.Proofs.Http.Meaning

namespace ClusterBackup.Http

open Text

/-- The pairs of an optimization. -/
def optimizePairs : Params := [("optimize", "true"), ("waitSearcher", "true"), ("wt", "json")]

/-- The URL asks for an optimization of the collection and for nothing else: its path says the
segments of the base URL, the name of the collection and `update`. -/
def Optimizes (b : BaseUrl) (collection : Collection) (u : Url) : Prop :=
  u.segments.map Url.said = b.directory.map Url.said ++
    [Utf8.encode collection.name.toList, Utf8.encode "update".toList] ∧
  u.pairs = optimizePairs

section

variable {c : Config} {env : Surroundings} {number : Nat} {b : BaseUrl} {collection : Collection}

/-! ## Where the request goes -/

/-- What is put behind the base URL. -/
def behind (collection : Collection) : List Char := collection.name.toList ++ "/update".toList

/-- The last part of it is `update`. -/
theorem ends_behind : ∀ c ∈ (behind collection).getLast?, Url.isControlOrSpace c = false := by
  intro c last
  have : c = 'e' := by simpa [behind, eq_comm] using last
  rw [this]
  decide

theorem updateUrl_eq (written : c.baseUrl = b.text) :
    updateUrl c collection = String.ofList (b.front ++ '/' :: behind collection) := by
  rw [← String.toList_inj]
  simp [updateUrl, toList_baseUrl written, behind]

/-- The characters of the path that are not those of the base URL. -/
def pathBehind (collection : Collection) : List Char :=
  (cut '?' (((behind collection).filter (!Url.isLineBreakOrTab ·)).takeWhile (· != '#'))).1

/-- Whatever the collection is, the host is that of the base URL, and the path starts in its
directory. -/
theorem asked?_optimize (written : c.baseUrl = b.text) {u : Url}
    (asked : asked? c env number (.optimize collection) = some u) :
    ∃ address, b.address? = some address ∧ u.secure = b.secure ∧ u.host = address.1 ∧
      u.port = address.2 ∧ u.segments = Url.walk (Url.descend [] b.parts)
        (splitWhere Url.isSlash (pathBehind collection)) := by
  rw [asked?, plan, Plan.url?, requestUrl?, updateUrl_eq written, b.parse?_behind ends_behind,
    Option.map_map, Option.map_eq_some_iff] at asked
  obtain ⟨address, known, rfl⟩ := asked
  exact ⟨address, known, rfl, rfl, rfl, rfl⟩

/-- A request is made if the host can be made out. -/
theorem isSome_asked?_optimize (written : c.baseUrl = b.text) :
    (asked? c env number (.optimize collection)).isSome = b.address?.isSome := by
  rw [asked?, plan, Plan.url?, requestUrl?, updateUrl_eq written, b.parse?_behind ends_behind,
    Option.map_map, Option.isSome_map]

/-- A name that no character of it cuts is walked along as one part. -/
theorem asked?_optimize_of_uncut (written : c.baseUrl = b.text)
    (uncut : ∀ c ∈ collection.name.toList, c ∉ ['/', '\\', '?', '#', '\t', '\n', '\r']) :
    asked? c env number (.optimize collection) = b.address?.map fun address =>
      { secure := b.secure, host := address.1, port := address.2
        segments :=
          (Url.enter (Url.descend [] b.parts) collection.name.toList).reverse ++ ["update"]
        query := some (String.ofList (Url.Form.encode optimizePairs)) } := by
  have uncut_behind : ∀ c ∈ behind collection, c ∉ ['?', '#', '\t', '\n', '\r'] := by
    intro c inside
    rcases List.mem_append.mp inside with inside | inside
    · exact fun other => uncut c inside (List.mem_cons_of_mem _ (List.mem_cons_of_mem _ other))
    · have plain : ∀ c ∈ "/update".toList, c ∉ ['?', '#', '\t', '\n', '\r'] := by simp
      exact plain c inside
  have parts : splitWhere Url.isSlash (behind collection) =
      [collection.name.toList, "update".toList] := by
    have one : ∀ c ∈ collection.name.toList, Url.isSlash c = false := by
      intro c inside
      have other := uncut c inside
      simp only [List.mem_cons, List.not_mem_nil, or_false, not_or] at other
      simp [Url.isSlash, other]
    change splitWhere Url.isSlash (collection.name.toList ++ '/' :: "update".toList) = _
    rw [splitWhere_append_cons (by decide), splitWhere_eq_singleton one]
    rfl
  have path : Url.walk (Url.descend [] b.parts) (splitWhere Url.isSlash (behind collection)) =
      (Url.enter (Url.descend [] b.parts) collection.name.toList).reverse ++ ["update"] := by
    rw [parts, Url.walk_cons (List.cons_ne_nil _ _), Url.walk_singleton (by decide) (by decide)]
    rfl
  rw [asked?, plan, Plan.url?, requestUrl?, updateUrl_eq written,
    b.parse?_path_behind uncut_behind ends_behind, Option.map_map, path]
  rfl

/-! ## Names that arrive -/

/-- A name that stands in a path as a segment arrives. -/
theorem optimizes_of_isSegment (written : c.baseUrl = b.text)
    (segment : Url.IsSegment collection.name.toList) {u : Url}
    (asked : asked? c env number (.optimize collection) = some u) : Optimizes b collection u := by
  rw [asked?_optimize_of_uncut written segment.uncut, segment.enter_eq,
    Option.map_eq_some_iff] at asked
  obtain ⟨address, -, rfl⟩ := asked
  constructor
  · rw [List.reverse_cons, List.map_append, List.map_append, ← BaseUrl.directory]
    simp only [List.map_cons, List.map_nil, Url.said_encode,
      Url.Percent.bytes_of_unescaped segment.unescaped, List.append_assoc]
    rfl
  · rw [Url.pairs, Option.getD_some, String.toList_ofList, Url.Form.decode_encode]

/-! ## Names that do not -/

theorem mem_pathBehind {d : Char} (inside : d ∈ pathBehind collection) :
    d ∈ behind collection ∧ d ∉ ['?', '#', '\t', '\n', '\r'] := by
  rw [pathBehind, fst_cut] at inside
  have mark : d ≠ '?' := by simpa using List.mem_takeWhile_imp inside
  have inside := List.takeWhile_subset _ inside
  have hash : d ≠ '#' := by simpa using List.mem_takeWhile_imp inside
  have inside := List.mem_filter.mp (List.takeWhile_subset _ inside)
  refine ⟨inside.1, ?_⟩
  have kept := inside.2
  simp only [Url.isLineBreakOrTab, Bool.not_eq_true', Bool.or_eq_false_iff, beq_eq_false_iff_ne]
    at kept
  simp [mark, hash, kept]

/-- What the path is made of, slashes left out, is in the name and in `update`. -/
theorem pathBehind_sublist (collection : Collection) :
    ((pathBehind collection).filter (!Url.isSlash ·)).Sublist
      (collection.name.toList ++ "update".toList) := by
  have path : (pathBehind collection).Sublist (behind collection) := by
    rw [pathBehind, fst_cut]
    exact ((List.takeWhile_sublist _).trans (List.takeWhile_sublist _)).trans List.filter_sublist
  have last : "/update".toList.filter (!Url.isSlash ·) = "update".toList := by decide
  have kept := path.filter (!Url.isSlash ·)
  rw [behind, List.filter_append, last] at kept
  exact kept.trans (List.filter_sublist.append_right _)

/-- A name after which the path says enough arrives. -/
theorem isSegment_of_weight (written : c.baseUrl = b.text) {u : Url}
    (asked : asked? c env number (.optimize collection) = some u)
    (arrived : Url.weight b.directory + (Utf8.encode collection.name.toList).length +
      (Utf8.encode "update".toList).length ≤ Url.weight u.segments) :
    Url.IsSegment collection.name.toList := by
  obtain ⟨-, -, -, -, -, path⟩ := asked?_optimize written asked
  have bound := Url.weight_walk_le (Url.descend [] b.parts)
    (splitWhere Url.isSlash (pathBehind collection))
  rw [← path, Url.bulk_splitWhere] at bound
  rw [BaseUrl.directory, Url.weight_reverse] at arrived
  rcases Utf8.eq_or_length_encode_lt (pathBehind_sublist collection) with same | shorter
  · have uncut : ∀ d ∈ collection.name.toList, d ∉ ['/', '\\', '?', '#', '\t', '\n', '\r'] := by
      intro d inside
      have kept : d ∈ (pathBehind collection).filter (!Url.isSlash ·) := by
        rw [same]
        exact List.mem_append_left _ inside
      obtain ⟨inside, solid⟩ := List.mem_filter.mp kept
      have other := (mem_pathBehind inside).2
      simp only [Url.isSlash, Bool.not_eq_true', Bool.or_eq_false_iff, beq_eq_false_iff_ne] at solid
      simp only [List.mem_cons, List.not_mem_nil, or_false, not_or] at other ⊢
      exact ⟨solid.1, solid.2, other⟩
    rw [asked?_optimize_of_uncut written uncut, Option.map_eq_some_iff] at asked
    obtain ⟨_, -, rfl⟩ := asked
    have last : Url.weight ["update"] = (Utf8.encode "update".toList).length := by decide
    simp only [Url.weight_append, Url.weight_reverse, last] at arrived
    have nonempty : collection.name.toList ≠ [] :=
      mt String.toList_eq_nil_iff.mp collection.nonempty
    have entered : Url.weight (Url.descend [] b.parts) + (Utf8.encode collection.name.toList).length
        ≤ Url.weight (Url.enter (Url.descend [] b.parts) collection.name.toList) := by omega
    exact Url.isSegment_of_weight uncut nonempty entered
  · rw [Utf8.length_encode_append] at shorter
    omega

/-- A name that arrives stands in a path as a segment. -/
theorem isSegment_of_optimizes (written : c.baseUrl = b.text) {u : Url}
    (asked : asked? c env number (.optimize collection) = some u) (h : Optimizes b collection u) :
    Url.IsSegment collection.name.toList := by
  have arrived := congrArg (fun said => (said.map List.length).sum) h.1
  simp only [List.map_append, List.map_map, List.sum_append, List.map_cons, List.map_nil,
    List.sum_cons, List.sum_nil] at arrived
  refine isSegment_of_weight written asked ?_
  change _ ≤ (u.segments.map (List.length ∘ Url.said)).sum
  rw [arrived]
  change (b.directory.map (List.length ∘ Url.said)).sum + _ + _ ≤ _
  omega

/-- What is asked for tells the collections that arrive apart. -/
theorem Optimizes.unique {other : Collection} {u : Url} (h : Optimizes b collection u)
    (h' : Optimizes b other u) : collection = other := by
  have said := List.append_cancel_left (h.1.symm.trans h'.1)
  have bytes := (List.cons.inj said).1
  have names : collection.name = other.name := by
    rw [← String.toList_inj, ← Utf8.decodeLossy_encode collection.name.toList, bytes,
      Utf8.decodeLossy_encode]
  cases collection
  cases other
  simpa using names

end

/-- **An optimization arrives at the collection exactly if its name is a segment of a path.** The
request of an optimization is one URL, if the host can be made out, and it goes to the host of the
base URL. Its path says the path of the base URL, the name of the collection and `update`, with
the pairs of an optimization and no others as its query, exactly if the name has no slash, no
backslash, nothing that starts a query or a fragment, no tab and no line break, if it has no escape
that a path reads back, and if it is none of the dots. Two collections with such names never share
a URL. -/
theorem optimize_arrives_iff_segment {c : Config} {b : BaseUrl} (written : c.baseUrl = b.text)
    (env : Surroundings) :
    (∀ {ν : Type} (t : Transport ν) (collection : Collection) (s : State (ν × List Url)),
      (answer c env t.recording (.optimize collection) s).2.network.2 =
        s.network.2 ++ (asked? c env s.nextId (.optimize collection)).toList) ∧
    ∀ number : Nat,
      (∀ collection : Collection,
        (asked? c env number (.optimize collection)).isSome = b.address?.isSome) ∧
      (∀ (collection : Collection) (u : Url),
        asked? c env number (.optimize collection) = some u →
          (∃ address, b.address? = some address ∧ u.secure = b.secure ∧ u.host = address.1 ∧
            u.port = address.2) ∧
          (Optimizes b collection u ↔ Url.IsSegment collection.name.toList)) ∧
      ∀ (collection other : Collection) (u : Url),
        Url.IsSegment collection.name.toList → Url.IsSegment other.name.toList →
          asked? c env number (.optimize collection) = some u →
            asked? c env number (.optimize other) = some u → collection = other := by
  refine ⟨fun t collection s => network_answer_recording t c env _ s, fun number => ⟨?_, ?_, ?_⟩⟩
  · exact fun collection => isSome_asked?_optimize written
  · intro collection u asked
    obtain ⟨address, known, secure, host, port, -⟩ := asked?_optimize written asked
    exact ⟨⟨address, known, secure, host, port⟩, isSegment_of_optimizes written asked,
      fun segment => optimizes_of_isSegment written segment asked⟩
  · intro collection other u segment segment' asked asked'
    exact (optimizes_of_isSegment written segment asked).unique
      (optimizes_of_isSegment written segment' asked')

/-- A name that leads back to another collection. -/
def roundabout : Collection := ⟨"x/../catalog", by decide, by decide⟩

/-- Two collections share a URL, which is that of one of them. -/
theorem optimize_arrives_iff_segment_roundabout :
    let c : Config := { baseUrl := "http://localhost:8983/solr//" }
    let env : Surroundings := ⟨⟨2024, 1, 1, 12, 0, 0, 0⟩, .empty⟩
    ∃ u, asked? c env 0 (.optimize roundabout) = some u ∧
      asked? c env 0 (.optimize .default) = some u ∧
      u.target = "/solr/catalog/update?optimize=true&waitSearcher=true&wt=json" ∧
      ¬ Optimizes localBase roundabout u ∧ Optimizes localBase .default u := by
  intro c env
  have written : c.baseUrl = localBase.text := by decide
  obtain ⟨-, law⟩ := optimize_arrives_iff_segment written env
  let u : Url := ⟨false, "localhost", some 8983, ["solr", "catalog", "update"],
    some "optimize=true&waitSearcher=true&wt=json"⟩
  have there : asked? c env 0 (.optimize roundabout) = some u := by decide +kernel
  have here : asked? c env 0 (.optimize .default) = some u := by decide +kernel
  refine ⟨u, there, here, by decide, ?_, ?_⟩
  · intro arrived
    have segment := (((law 0).2.1 roundabout u there).2).mp arrived
    exact segment.uncut '/' (by decide) (by decide)
  · refine (((law 0).2.1 .default u here).2).mpr ⟨by simp [Collection.default], ?_, by decide⟩
    intro rest _ inside
    exact absurd (inside.subset List.mem_cons_self) (by decide)

end ClusterBackup.Http
