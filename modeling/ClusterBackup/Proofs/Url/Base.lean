/-
ClusterBackup.Proofs.Url.Base — base URLs, and what is put behind them.

A base URL is a scheme, a host perhaps with a port, and a path, and it is
written without a sign that starts a query or a fragment, without a
backslash and without white space. Slashes at its end do not count. What is
put behind it after one slash is read as a continuation of the path
(`parse?_behind`): nothing in it can change the scheme, the host or the
port, and the parts of the base path have been walked along before any of
it is looked at.
-/
import ClusterBackup.Proofs.Url.Path
import ClusterBackup.Text.Blank

namespace ClusterBackup

open Text

/-- A base URL: `http://` or `https://`, a host, perhaps a port, and a path. -/
structure BaseUrl where
  secure : Bool
  /-- The host and the port as they are written. -/
  authority : List Char
  /-- The path as it is written, slashes at its end included. -/
  path : List Char
  hosted : authority ≠ []
  divided : '/' ∉ authority
  rooted : ∀ c ∈ path.head?, c = '/'
  plain : ∀ c ∈ authority ++ path, c ∉ ['?', '#', '\\'] ∧ isSpace c = false

namespace BaseUrl

variable (b : BaseUrl)

def scheme : List Char := if b.secure then ['h', 't', 't', 'p', 's'] else ['h', 't', 't', 'p']

/-- The base URL as it is written. -/
def text : String := String.ofList (b.scheme ++ ':' :: '/' :: '/' :: (b.authority ++ b.path))

/-- The path without the slashes at its end. -/
def trunk : List Char := (b.path.reverse.dropWhile (· == '/')).reverse

/-- The base URL without the slashes at its end. -/
def front : List Char := b.scheme ++ ':' :: '/' :: '/' :: (b.authority ++ b.trunk)

/-- The host and the port, if a client can make them out. -/
def address? : Option (String × Option Nat) := Url.readAuthority? b.authority

/-- The parts of the path between its slashes. -/
def parts : List (List Char) := (b.trunk.tail?.map (splitWhere Url.isSlash)).getD []

/-- The segments at which the path arrives. -/
def directory : List String := (Url.descend [] b.parts).reverse

/-! ## The parts of a base URL -/

theorem trunk_prefix : b.trunk <+: b.path := by
  have suffix := List.dropWhile_suffix (l := b.path.reverse) (· == '/')
  simpa [trunk] using List.reverse_prefix.mpr suffix

/-- Without slashes at its end the path is empty or starts with a slash. -/
theorem trunk_cases : b.trunk = [] ∨ ∃ rest, b.trunk = '/' :: rest := by
  cases written : b.trunk with
  | nil => exact .inl rfl
  | cons c rest =>
    obtain ⟨more, whole⟩ := b.trunk_prefix
    have first : b.path.head? = some c := by rw [← whole, written]; rfl
    exact .inr ⟨rest, by rw [b.rooted c first]⟩

theorem trunk_plain {c : Char} (inside : c ∈ b.trunk) : c ∉ ['?', '#', '\\'] ∧ isSpace c = false :=
  b.plain c (List.mem_append_right _ (b.trunk_prefix.subset inside))

theorem authority_plain {c : Char} (inside : c ∈ b.authority) :
    c ∉ ['?', '#', '\\'] ∧ isSpace c = false :=
  b.plain c (List.mem_append_left _ inside)

/-- No character of the host ends it. -/
theorem endsAuthority_eq_false {c : Char} (inside : c ∈ b.authority) :
    Url.endsAuthority c = false := by
  have other := (b.authority_plain inside).1
  have divided : c ≠ '/' := fun same => b.divided (same ▸ inside)
  simp only [List.mem_cons, List.not_mem_nil, or_false, not_or] at other
  simp [Url.endsAuthority, Url.isSlash, other, divided]

theorem isLineBreakOrTab_eq_false {c : Char} (solid : isSpace c = false) :
    Url.isLineBreakOrTab c = false := by
  by_contra breaks
  simp only [Url.isLineBreakOrTab, Bool.or_eq_true, beq_iff_eq, Bool.not_eq_false] at breaks
  rcases breaks with (rfl | rfl) | rfl <;> exact absurd solid (by decide)

/-- There is nothing in a base URL that goes before it is read. -/
theorem filter_front : b.front.filter (!Url.isLineBreakOrTab ·) = b.front := by
  rw [List.filter_eq_self]
  intro c inside
  have scheme : ∀ c ∈ b.scheme ++ [':', '/', '/'], Url.isLineBreakOrTab c = false := by
    unfold BaseUrl.scheme
    cases b.secure <;> simp [Url.isLineBreakOrTab]
  rw [front, show b.scheme ++ ':' :: '/' :: '/' :: (b.authority ++ b.trunk) =
    (b.scheme ++ [':', '/', '/']) ++ (b.authority ++ b.trunk) by simp] at inside
  rw [Bool.not_eq_true']
  simp only [List.mem_append] at inside scheme
  rcases inside with inside | inside | inside
  · exact scheme c inside
  · exact isLineBreakOrTab_eq_false (b.authority_plain inside).2
  · exact isLineBreakOrTab_eq_false (b.trunk_plain inside).2

/-- Without the slashes at its end, a base URL is its front. -/
theorem dropSlashes_text : (b.text.toList.reverse.dropWhile (· == '/')).reverse = b.front := by
  have other : ∀ c ∈ b.authority, ¬ (c == '/') = true := by
    intro c inside
    rw [beq_iff_eq]
    rintro rfl
    exact b.divided inside
  obtain ⟨last, host, reversed⟩ :=
    List.exists_cons_of_ne_nil (mt List.reverse_eq_nil_iff.mp b.hosted)
  have kept : ¬ (last == '/') = true :=
    other last (List.mem_reverse.mp (by rw [reversed]; exact List.mem_cons_self))
  have host_eq : b.authority = host.reverse ++ [last] := by
    rw [← List.reverse_cons, ← reversed, List.reverse_reverse]
  rw [text, String.toList_ofList, front, trunk]
  simp only [List.reverse_append, List.reverse_cons, List.append_assoc, reversed]
  rw [List.dropWhile_append]
  split
  · next nothing =>
    rw [List.isEmpty_iff] at nothing
    rw [nothing, List.cons_append, List.dropWhile_cons, if_neg kept]
    simp [host_eq]
  · simp [host_eq]

/-! ## Behind a base URL -/

/-- The path of what is put behind a base URL starts in the directory of the base URL. -/
theorem readPath_behind (rest : List Char) : Url.readPath (b.trunk ++ '/' :: rest) =
    Url.walk (Url.descend [] b.parts) (splitWhere Url.isSlash rest) := by
  have slash : Url.isSlash '/' = true := by decide
  have more := splitWhere_ne_nil Url.isSlash rest
  rcases b.trunk_cases with nothing | ⟨path, rooted⟩
  · rw [parts, nothing, List.nil_append, Url.readPath, if_pos slash]
    rfl
  · rw [parts, rooted, List.cons_append, Url.readPath, if_pos slash, splitWhere_append_cons slash,
      Url.walk_append [] _ more]
    rfl

theorem readScheme?_front (cs : List Char) :
    Url.readScheme? (b.scheme ++ ':' :: cs) = some (b.secure, cs) := by
  unfold BaseUrl.scheme
  cases b.secure <;> rfl

/-- Characters stay as they are if neither the first nor the last of them is removed at the ends. -/
theorem trim_eq {c : Char} {cs : List Char} (first : Url.isControlOrSpace c = false)
    (last : ∀ d ∈ (c :: cs).getLast?, Url.isControlOrSpace d = false) :
    (((c :: cs).dropWhile Url.isControlOrSpace).reverse.dropWhile Url.isControlOrSpace).reverse =
      c :: cs := by
  rw [List.dropWhile_cons, if_neg (by simp [first])]
  have kept : (c :: cs).reverse.dropWhile Url.isControlOrSpace = (c :: cs).reverse := by
    rw [List.getLast?_eq_head?_reverse] at last
    cases reversed : (c :: cs).reverse with
    | nil => rfl
    | cons d ds =>
      rw [reversed] at last
      rw [List.dropWhile_cons, if_neg (by simp [last d rfl])]
  rw [kept, List.reverse_reverse]

/-- The host stands between two slashes and the next one. -/
theorem span_authority (cs : List Char) :
    let behind := b.trunk ++ '/' :: cs
    ('/' :: '/' :: (b.authority ++ behind)).dropWhile Url.isSlash = b.authority ++ behind ∧
    (b.authority ++ behind).takeWhile (!Url.endsAuthority ·) = b.authority ∧
    (b.authority ++ behind).dropWhile (!Url.endsAuthority ·) = behind := by
  intro behind
  have slash : Url.isSlash '/' = true := by decide
  obtain ⟨more, rooted⟩ : ∃ more, behind = '/' :: more := by
    rcases b.trunk_cases with nothing | ⟨path, rooted⟩
    · exact ⟨cs, by simp only [behind, nothing, List.nil_append]⟩
    · exact ⟨path ++ '/' :: cs, by simp only [behind, rooted, List.cons_append]⟩
  have inside : ∀ c ∈ b.authority, (!Url.endsAuthority c) = true := fun c member => by
    rw [b.endsAuthority_eq_false member, Bool.not_false]
  have ends : Url.endsAuthority '/' = true := by decide
  refine ⟨?_, ?_, ?_⟩
  · obtain ⟨c, host, written⟩ := List.exists_cons_of_ne_nil b.hosted
    have other := b.endsAuthority_eq_false (c := c) (written ▸ List.mem_cons_self)
    simp only [Url.endsAuthority, Bool.or_eq_false_iff] at other
    simp [slash, written, other.1]
  · rw [List.takeWhile_append_of_pos inside, rooted, List.takeWhile_cons]
    simp [ends]
  · rw [List.dropWhile_append_of_pos inside, rooted, List.dropWhile_cons]
    simp [ends]

/-- **What is put behind a base URL is read as a continuation of its path.** -/
theorem parse?_behind {rest : List Char}
    (ends : ∀ c ∈ rest.getLast?, Url.isControlOrSpace c = false) :
    Url.parse? (String.ofList (b.front ++ '/' :: rest)) = b.address?.map fun address =>
      let asked := (rest.filter (!Url.isLineBreakOrTab ·)).takeWhile (· != '#')
      { secure := b.secure, host := address.1, port := address.2
        segments := Url.walk (Url.descend [] b.parts) (splitWhere Url.isSlash (cut '?' asked).1)
        query := if asked.contains '?' then
            some (String.ofList (Url.Percent.encode Url.isQueryChar (cut '?' asked).2))
          else none } := by
  have slash : Url.isLineBreakOrTab '/' = false := by decide
  have noMark : '?' ∉ b.trunk := fun inside => (b.trunk_plain inside).1 (by decide)
  have noHash : ∀ c ∈ b.trunk, (c != '#') = true := fun c inside => by
    have other := (b.trunk_plain inside).1
    simp only [List.mem_cons, List.not_mem_nil, or_false, not_or] at other
    simp [other]
  -- Nothing is removed at the ends, and only from what is put behind.
  have trimmed : (((b.front ++ '/' :: rest).dropWhile Url.isControlOrSpace).reverse.dropWhile
      Url.isControlOrSpace).reverse = b.front ++ '/' :: rest := by
    obtain ⟨name, written⟩ : ∃ name, b.scheme = 'h' :: name := by
      unfold BaseUrl.scheme
      cases b.secure <;> exact ⟨_, rfl⟩
    have start : b.front ++ '/' :: rest =
        'h' :: (name ++ ':' :: '/' :: '/' :: (b.authority ++ b.trunk) ++ '/' :: rest) := by
      rw [front, written]
      rfl
    rw [start]
    refine trim_eq (by decide) fun c last => ?_
    rw [← start, List.getLast?_append, List.getLast?_cons, Option.some_or] at last
    cases written : rest.getLast? with
    | none =>
      rw [written] at last
      obtain rfl : '/' = c := by simpa using last
      decide
    | some d =>
      rw [written] at last
      obtain rfl : d = c := by simpa using last
      exact ends d written
  rw [Url.parse?, String.toList_ofList]
  simp only [trimmed]
  rw [List.filter_append, b.filter_front, List.filter_cons_of_pos (by simp [slash]), front,
    List.append_assoc, List.cons_append, b.readScheme?_front]
  obtain ⟨slashes, host, behind⟩ := b.span_authority (rest.filter (!Url.isLineBreakOrTab ·))
  simp only [Option.bind_eq_bind, Option.bind_some, List.cons_append, List.append_assoc, slashes,
    host, behind]
  -- Neither the fragment nor the query starts before what is put behind.
  generalize rest.filter (!Url.isLineBreakOrTab ·) = kept
  have asked : (b.trunk ++ '/' :: kept).takeWhile (· != '#') =
      b.trunk ++ '/' :: kept.takeWhile (· != '#') := by
    rw [List.takeWhile_append_of_pos noHash, List.takeWhile_cons_of_pos (by decide)]
  have divided (cs : List Char) : cut '?' (b.trunk ++ '/' :: cs) =
      (b.trunk ++ '/' :: (cut '?' cs).1, (cut '?' cs).2) := by
    rw [cut_append noMark, cut, if_neg (by decide)]
  have marked (cs : List Char) : (b.trunk ++ '/' :: cs).contains '?' = cs.contains '?' := by
    simp [noMark]
  simp only [asked, divided, marked, b.readPath_behind]
  rw [address?]
  cases Url.readAuthority? b.authority <;> rfl

/-- Without a query or a fragment, all of it is path. -/
theorem parse?_path_behind {rest : List Char}
    (uncut : ∀ c ∈ rest, c ∉ ['?', '#', '\t', '\n', '\r'])
    (ends : ∀ c ∈ rest.getLast?, Url.isControlOrSpace c = false) :
    Url.parse? (String.ofList (b.front ++ '/' :: rest)) = b.address?.map fun address =>
      { secure := b.secure, host := address.1, port := address.2
        segments := Url.walk (Url.descend [] b.parts) (splitWhere Url.isSlash rest)
        query := none } := by
  simp only [List.mem_cons, List.not_mem_nil, or_false, not_or] at uncut
  have kept : rest.filter (!Url.isLineBreakOrTab ·) = rest :=
    List.filter_eq_self.mpr fun c inside => by simp [Url.isLineBreakOrTab, uncut c inside]
  have whole : rest.takeWhile (· != '#') = rest :=
    List.takeWhile_eq_self_iff.mpr fun c inside => by simp [uncut c inside]
  have noMark : '?' ∉ rest := fun inside => (uncut _ inside).1 rfl
  have path : (cut '?' rest).1 = rest := by
    rw [fst_cut]
    exact List.takeWhile_eq_self_iff.mpr fun c inside => by simp [uncut c inside]
  rw [b.parse?_behind ends]
  simp only [kept, whole, path, List.contains_iff_mem, noMark, if_false]

/-- A slash behind a base URL leads to its directory. -/
theorem parse?_slash : Url.parse? (String.ofList (b.front ++ ['/'])) = b.address?.map fun address =>
    ⟨b.secure, address.1, address.2, b.directory ++ [""], none⟩ := by
  have here : Url.walk (Url.descend [] b.parts) (splitWhere Url.isSlash []) =
      b.directory ++ [""] := Url.walk_singleton (by decide) (by decide)
  rw [b.parse?_path_behind (by simp) (by simp), here]

/-! ## What can be asked for under a base URL -/

/-- The URL with segments behind the directory of a base URL, and with pairs as its query. -/
def under (address : String × Option Nat) (segments : List String)
    (pairs : List (String × String)) : Url where
  secure := b.secure
  host := address.1
  port := address.2
  segments := b.directory ++ segments
  query := some (String.ofList (Url.Form.encode pairs))

/-- The pairs are read back off its query. -/
theorem pairs_under (address : String × Option Nat) (segments : List String)
    (pairs : List (String × String)) : (b.under address segments pairs).pairs = pairs := by
  rw [Url.pairs, under, Option.getD_some, String.toList_ofList, Url.Form.decode_encode]

end BaseUrl

end ClusterBackup
