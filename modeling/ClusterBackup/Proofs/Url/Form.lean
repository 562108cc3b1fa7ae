/-
ClusterBackup.Proofs.Url.Form — a query that is written is read back.

A name or a value is written without the signs that separate pairs, and its
characters are read back one by one: as they are, as a plus sign, or as the
bytes behind percent signs. So the pairs come back whole and in their order
(`decode_encode`), and a URL with pairs added to its query has the pairs
that it had and then these (`pairs_withQuery`), whatever the texts are: no
text of a pair can bring another pair in.
-/
import ClusterBackup.Proofs.Text.Split
import ClusterBackup.Proofs.Text.Utf8
import ClusterBackup.Url

namespace ClusterBackup

open Text

/-! ## Hexadecimal digits -/

theorem Text.hexValue?_hexDigitUpper {n : Nat} (small : n < 16) :
    hexValue? (hexDigitUpper n) = some n := by
  revert n
  decide

namespace Url

/-! ## Percent signs -/

theorem Percent.bytes_cons {c : Char} (plain : c ≠ '%') (rest : List Char) :
    bytes (c :: rest) = Utf8.encodeChar c ++ bytes rest := by
  rw [bytes]
  rintro h l rest' same -
  exact plain same

/-- A byte behind a percent sign is read back. -/
theorem Percent.bytes_escape (b : UInt8) (rest : List Char) :
    bytes (escape b ++ rest) = b :: bytes rest := by
  have byte : b.toNat < 256 := b.toNat_lt
  have high : hexValue? (hexDigitUpper (b.toNat / 16)) = some (b.toNat / 16) :=
    hexValue?_hexDigitUpper (by omega)
  have low : hexValue? (hexDigitUpper (b.toNat % 16)) = some (b.toNat % 16) :=
    hexValue?_hexDigitUpper (by omega)
  have whole : b.toNat / 16 * 16 + b.toNat % 16 = b.toNat := by omega
  simp only [escape, List.cons_append, List.nil_append]
  rw [bytes, high, low]
  simp only [whole, UInt8.ofNat_toNat]

namespace Form

/-! ## Names and values -/

/-- Characters that a name or a value is written with. -/
def isWritten (c : Char) : Bool := isPlain c || c == '+' || c == '%'

theorem isWritten_hexDigitUpper {n : Nat} (small : n < 16) :
    isWritten (hexDigitUpper n) = true ∧ hexDigitUpper n ≠ '+' := by
  revert n
  decide

theorem isWritten_escape {b : UInt8} {c : Char} (inside : c ∈ Percent.escape b) :
    isWritten c = true ∧ c ≠ '+' := by
  have byte : b.toNat < 256 := b.toNat_lt
  simp only [Percent.escape, List.mem_cons, List.not_mem_nil, or_false] at inside
  rcases inside with rfl | rfl | rfl
  · decide
  · exact isWritten_hexDigitUpper (by omega)
  · exact isWritten_hexDigitUpper (by omega)

theorem isWritten_encodeText {s : String} {c : Char} (inside : c ∈ encodeText s) :
    isWritten c = true := by
  obtain ⟨d, -, inside⟩ := List.mem_flatMap.mp inside
  unfold encodeChar Percent.encodeChar at inside
  split at inside
  · rw [List.mem_singleton.mp inside]
    rfl
  split at inside
  · next plain =>
    rw [List.mem_singleton.mp inside, isWritten, plain]
    rfl
  · obtain ⟨b, -, inside⟩ := List.mem_flatMap.mp inside
    exact (isWritten_escape inside).1

/-- Plus signs as the spaces that they stand for. -/
def spaced (cs : List Char) : List Char := cs.map fun c => if c = '+' then ' ' else c

theorem spaced_append (a b : List Char) : spaced (a ++ b) = spaced a ++ spaced b :=
  List.map_append

theorem spaced_flatMap_escape (bs : List UInt8) :
    spaced (bs.flatMap Percent.escape) = bs.flatMap Percent.escape := by
  have same : ∀ c ∈ bs.flatMap Percent.escape, (if c = '+' then ' ' else c) = c := by
    intro c inside
    obtain ⟨b, -, inside⟩ := List.mem_flatMap.mp inside
    exact if_neg (isWritten_escape inside).2
  rw [spaced, List.map_congr_left same, List.map_id']

theorem bytes_flatMap_escape (bs : List UInt8) (rest : List Char) :
    Percent.bytes (bs.flatMap Percent.escape ++ rest) = bs ++ Percent.bytes rest := by
  induction bs with
  | nil => rfl
  | cons b bs ih =>
    rw [List.flatMap_cons, List.append_assoc, Percent.bytes_escape, ih, List.cons_append]

/-- A character is read back as its bytes. -/
theorem bytes_encodeChar (c : Char) (rest : List Char) :
    Percent.bytes (spaced (encodeChar c) ++ rest) = Utf8.encodeChar c ++ Percent.bytes rest := by
  unfold encodeChar Percent.encodeChar
  split
  · next space =>
    subst space
    exact Percent.bytes_cons (by decide) rest
  split
  · next plain =>
    have noSign : c ≠ '+' ∧ c ≠ '%' := by
      constructor <;> (rintro rfl; exact absurd plain (by decide))
    simp only [spaced, List.map_cons, List.map_nil, if_neg noSign.1, List.cons_append,
      List.nil_append]
    exact Percent.bytes_cons noSign.2 rest
  · rw [spaced_flatMap_escape, bytes_flatMap_escape]

/-- A name or a value is read back. -/
theorem decodeText_encodeText (s : String) : decodeText (encodeText s) = s := by
  have bytes : ∀ cs : List Char,
      Percent.bytes (spaced (cs.flatMap encodeChar)) = Utf8.encode cs := by
    intro cs
    induction cs with
    | nil => rfl
    | cons c cs ih =>
      rw [List.flatMap_cons, spaced_append, bytes_encodeChar, ih, Utf8.encode, Utf8.encode,
        List.flatMap_cons]
  rw [decodeText, ← spaced, encodeText, bytes, Utf8.decodeLossy_encode, String.ofList_toList]

/-! ## Pairs -/

@[simp] theorem decode_nil : decode [] = [] := rfl

theorem decodePair_encodePair (p : String × String) : decodePair (encodePair p) = p := by
  have noSign : '=' ∉ encodeText p.1 := fun inside => by
    exact absurd (isWritten_encodeText inside) (by decide)
  rw [decodePair, encodePair, cut_append_cons noSign]
  simp only [decodeText_encodeText]

theorem decode_encodePair (p : String × String) : decode (encodePair p) = [p] := by
  have noSign : ∀ c ∈ encodePair p, (c == '&') = false := by
    intro c inside
    rw [encodePair, List.mem_append, List.mem_cons] at inside
    rw [beq_eq_false_iff_ne]
    rintro rfl
    rcases inside with inside | inside | inside
    · exact absurd (isWritten_encodeText inside) (by decide)
    · exact absurd inside (by decide)
    · exact absurd (isWritten_encodeText inside) (by decide)
  have nonempty : (encodePair p).isEmpty = false := by simp [encodePair]
  rw [decode, splitWhere_eq_singleton noSign]
  simp [nonempty, decodePair_encodePair]

/-- Pairs before and after an ampersand are read apart. -/
theorem decode_append_cons (a b : List Char) : decode (a ++ '&' :: b) = decode a ++ decode b := by
  rw [decode, splitWhere_append_cons (by rfl), List.filter_append, List.map_append, ← decode,
    ← decode]

/-- **Pairs that are written are read back**, in their order. -/
theorem decode_encode (ps : List (String × String)) : decode (encode ps) = ps := by
  induction ps with
  | nil => rfl
  | cons p ps ih =>
    cases ps with
    | nil => exact decode_encodePair p
    | cons q ps =>
      rw [encode, decode_append_cons, decode_encodePair, ih]
      · rfl
      · simp

end Form

/-! ## Queries -/

/-- The pairs in the query of a URL. -/
def pairs (u : Url) : List (String × String) := Form.decode (u.query.getD "").toList

/-- **A URL with pairs added has the pairs that it had, and then these.** -/
theorem pairs_withQuery (u : Url) (ps : List (String × String)) :
    (u.withQuery ps).pairs = u.pairs ++ ps := by
  unfold pairs withQuery
  simp only [Option.getD_some]
  split
  · next nothing => simp [nothing, Form.decode_encode]
  · next nothing => simp [nothing, Form.decode_encode]
  · next q something given =>
    simp [given, Form.decode_append_cons, Form.decode_encode]

end Url

end ClusterBackup
