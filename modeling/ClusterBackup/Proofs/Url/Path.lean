/-
ClusterBackup.Proofs.Url.Path — what a path says, and where its parts lead.

What a segment says is the bytes that it writes, escapes read back.
Putting characters behind percent signs on the way into a URL changes
nothing of that (`bytes_encode`). A part without escapes says just its own
text, and one with an escape says fewer bytes than its text has
(`unescaped_of_length`).

Walking along the parts, each of them adds a segment or takes one away, so
the segments never say more than the parts that were walked along
(`weight_descend_le`). This bound is what tells the parts that arrive where
they were meant to from those that do not.
-/
import ClusterBackup.Proofs.Url.Form
import Mathlib

namespace ClusterBackup.Url

open Text

/-! ## What characters say -/

namespace Percent

/-- The characters start with two hexadecimal digits. -/
def StartsHex (cs : List Char) : Prop :=
  ∃ h l m n rest, cs = h :: l :: rest ∧ hexValue? h = some m ∧ hexValue? l = some n

/-- Nowhere in the characters is there a percent sign with two hexadecimal digits behind it. -/
def Unescaped (cs : List Char) : Prop := ∀ rest, StartsHex rest → ¬ '%' :: rest <:+ cs

theorem Unescaped.tail {c : Char} {cs : List Char} (h : Unescaped (c :: cs)) : Unescaped cs :=
  fun rest hex inside => h rest hex (inside.trans (List.suffix_cons c cs))

/-- Induction along the reading of percent signs: an escape is read as a whole, any other percent
sign as a character. -/
@[elab_as_elim]
theorem readInduction {motive : List Char → Prop} (nil : motive [])
    (escape : ∀ h l m n rest, hexValue? h = some m → hexValue? l = some n → motive rest →
      motive ('%' :: h :: l :: rest))
    (lone : ∀ cs, ¬ StartsHex cs → motive cs → motive ('%' :: cs))
    (plain : ∀ c cs, c ≠ '%' → motive cs → motive (c :: cs)) (cs : List Char) : motive cs := by
  induction h : cs.length using Nat.strong_induction_on generalizing cs with
  | _ length ih =>
    subst h
    cases cs with
    | nil => exact nil
    | cons c rest =>
      by_cases sign : c = '%'
      · subst sign
        by_cases hex : StartsHex rest
        · obtain ⟨h, l, m, n, rest, rfl, digit_h, digit_l⟩ := hex
          exact escape h l m n rest digit_h digit_l (ih _ (by simp; omega) rest rfl)
        · exact lone rest hex (ih _ (by simp) rest rfl)
      · exact plain c rest sign (ih _ (by simp) rest rfl)

theorem bytes_cons_escape {h l : Char} {m n : Nat} (digit_h : hexValue? h = some m)
    (digit_l : hexValue? l = some n) (rest : List Char) :
    bytes ('%' :: h :: l :: rest) = UInt8.ofNat (m * 16 + n) :: bytes rest := by
  rw [bytes, digit_h, digit_l]

/-- A percent sign without two digits behind it stands for itself. -/
theorem bytes_cons_lone {cs : List Char} (lone : ¬ StartsHex cs) :
    bytes ('%' :: cs) = Utf8.encodeChar '%' ++ bytes cs := by
  match cs with
  | [] => rfl
  | [_] => rfl
  | h :: l :: rest =>
    rw [bytes]
    split
    · next m n digit_h digit_l => exact absurd ⟨h, l, m, n, rest, rfl, digit_h, digit_l⟩ lone
    · rfl

/-! ### How much they say -/

/-- Characters say no more bytes than they have. -/
theorem length_bytes_le (cs : List Char) : (bytes cs).length ≤ (Utf8.encode cs).length := by
  induction cs using readInduction with
  | nil => rfl
  | escape h l m n rest digit_h digit_l ih =>
    have first := Utf8.length_encodeChar_pos '%'
    simp only [bytes_cons_escape digit_h digit_l, Utf8.length_encode_cons, List.length_cons]
    omega
  | lone cs lone ih =>
    simp only [bytes_cons_lone lone, Utf8.length_encode_cons, List.length_append]
    omega
  | plain c cs plain ih =>
    simp only [bytes_cons plain, Utf8.length_encode_cons, List.length_append]
    omega

/-- Characters without escapes say just their own text. -/
theorem bytes_of_unescaped {cs : List Char} (h : Unescaped cs) : bytes cs = Utf8.encode cs := by
  induction cs using readInduction with
  | nil => rfl
  | escape h' l m n rest digit_h digit_l ih =>
    exact absurd (List.suffix_refl _) (h _ ⟨h', l, m, n, rest, rfl, digit_h, digit_l⟩)
  | lone cs lone ih => rw [bytes_cons_lone lone, Utf8.encode_cons, ih h.tail]
  | plain c cs plain ih => rw [bytes_cons plain, Utf8.encode_cons, ih h.tail]

/-- Characters with an escape say fewer bytes than they have. -/
theorem unescaped_of_length {cs : List Char}
    (whole : (Utf8.encode cs).length ≤ (bytes cs).length) : Unescaped cs := by
  induction cs using readInduction with
  | nil => exact fun rest _ inside => by simpa using inside.length_le
  | escape h l m n rest digit_h digit_l ih =>
    have first := Utf8.length_encodeChar_pos '%'
    have second := Utf8.length_encodeChar_pos h
    have said := length_bytes_le rest
    simp only [bytes_cons_escape digit_h digit_l, Utf8.length_encode_cons, List.length_cons] at whole
    omega
  | lone cs lone ih =>
    simp only [bytes_cons_lone lone, Utf8.length_encode_cons, List.length_append] at whole
    intro rest hex inside
    rcases List.suffix_cons_iff.mp inside with same | inside
    · exact lone ((List.cons.inj same).2 ▸ hex)
    · exact ih (by omega) rest hex inside
  | plain c cs plain ih =>
    simp only [bytes_cons plain, Utf8.length_encode_cons, List.length_append] at whole
    intro rest hex inside
    rcases List.suffix_cons_iff.mp inside with same | inside
    · exact plain (List.cons.inj same).1.symm
    · exact ih (by omega) rest hex inside

/-! ### What becomes of it in a URL -/

/-- A hexadecimal digit stands in a path as it is. -/
theorem isPathChar_of_hexValue? {c : Char} {n : Nat} (digit : hexValue? c = some n) :
    isPathChar c = true := by
  have range : 0x20 < c.toNat ∧ c.toNat < 0x7F := by
    unfold hexValue? at digit
    split at digit
    · next decimal =>
      have : 48 ≤ c.toNat ∧ c.toNat ≤ 57 := by
        simpa [Char.isDigit, UInt32.le_iff_toNat_le] using decimal
      omega
    split at digit
    · next lower =>
      have : 97 ≤ c.toNat ∧ c.toNat ≤ 102 := by
        simpa [Char.le_def, UInt32.le_iff_toNat_le] using lower
      omega
    split at digit
    · next upper =>
      have : 65 ≤ c.toNat ∧ c.toNat ≤ 70 := by
        simpa [Char.le_def, UInt32.le_iff_toNat_le] using upper
      omega
    · cases digit
  have other : c ∉ ['"', '#', '<', '>', '?', Char.ofNat 0x60, '\x7b', '\x7d'] := by
    intro inside
    have none : ∀ d ∈ ['"', '#', '<', '>', '?', Char.ofNat 0x60, '\x7b', '\x7d'],
        hexValue? d = none := by simp [hexValue?]
    rw [none c inside] at digit
    cases digit
  simp [isPathChar, printableBut, range, other]

theorem encode_cons_plain {c : Char} (plain : isPathChar c = true) (cs : List Char) :
    encode isPathChar (c :: cs) = c :: encode isPathChar cs := by
  simp [encode, encodeChar, plain]

theorem encode_cons_other {c : Char} (other : isPathChar c = false) (cs : List Char) :
    encode isPathChar (c :: cs) = (Utf8.encodeChar c).flatMap escape ++ encode isPathChar cs := by
  simp [encode, encodeChar, other]

/-- A digit at the front of what was encoded was there before. -/
theorem eq_cons_of_encode {d : Char} {n : Nat} (digit : hexValue? d = some n)
    {cs rest : List Char} (starts : encode isPathChar cs = d :: rest) :
    ∃ cs', cs = d :: cs' ∧ encode isPathChar cs' = rest := by
  cases cs with
  | nil => cases starts
  | cons c cs =>
    cases plain : isPathChar c with
    | true =>
      rw [encode_cons_plain plain] at starts
      obtain ⟨rfl, rfl⟩ := List.cons.inj starts
      exact ⟨cs, rfl, rfl⟩
    | false =>
      -- What is not plain starts with a percent sign, and that is no digit.
      exfalso
      rw [encode_cons_other plain] at starts
      obtain ⟨b, bs, written⟩ := List.exists_cons_of_length_pos (Utf8.length_encodeChar_pos c)
      rw [written, List.flatMap_cons, escape] at starts
      obtain ⟨rfl, -⟩ := List.cons.inj starts
      rw [show hexValue? '%' = none by decide] at digit
      cases digit

theorem startsHex_of_encode {cs : List Char} (hex : StartsHex (encode isPathChar cs)) :
    StartsHex cs := by
  obtain ⟨h, l, m, n, rest, first, digit_h, digit_l⟩ := hex
  obtain ⟨cs', rfl, second⟩ := eq_cons_of_encode digit_h first
  obtain ⟨cs'', rfl, -⟩ := eq_cons_of_encode digit_l second
  exact ⟨h, l, m, n, cs'', rfl, digit_h, digit_l⟩

/-- **What characters say is what they say in a URL.** -/
theorem bytes_encode (cs : List Char) : bytes (encode isPathChar cs) = bytes cs := by
  have sign : isPathChar '%' = true := by decide
  induction cs using readInduction with
  | nil => rfl
  | escape h l m n rest digit_h digit_l ih =>
    rw [encode_cons_plain sign, encode_cons_plain (isPathChar_of_hexValue? digit_h),
      encode_cons_plain (isPathChar_of_hexValue? digit_l), bytes_cons_escape digit_h digit_l,
      bytes_cons_escape digit_h digit_l, ih]
  | lone cs lone ih =>
    rw [encode_cons_plain sign, bytes_cons_lone fun hex => lone (startsHex_of_encode hex),
      bytes_cons_lone lone, ih]
  | plain c cs other ih =>
    cases plain : isPathChar c with
    | true => rw [encode_cons_plain plain, bytes_cons other, bytes_cons other, ih]
    | false => rw [encode_cons_other plain, Form.bytes_flatMap_escape, bytes_cons other, ih]

end Percent

/-! ## Walking along the parts -/

/-- The segments, the last one first, once a part has been walked along. -/
def enter (before : List String) (part : List Char) : List String :=
  if plainDots part = ['.'] then before
  else if plainDots part = ['.', '.'] then before.drop 1
  else String.ofList (Percent.encode isPathChar part) :: before

/-- The segments, the last one first, once all of the parts have been walked along. -/
def descend (before : List String) (parts : List (List Char)) : List String :=
  parts.foldl enter before

theorem walk_cons {before : List String} {part : List Char} {parts : List (List Char)}
    (more : parts ≠ []) : walk before (part :: parts) = walk (enter before part) parts := by
  obtain ⟨next, parts, rfl⟩ := List.exists_cons_of_ne_nil more
  rw [walk, enter]
  · split
    · rfl
    split
    · rfl
    · rfl
  · simp

/-- The parts before the last one are walked along first. -/
theorem walk_append (before : List String) (parts : List (List Char)) {rest : List (List Char)}
    (more : rest ≠ []) : walk before (parts ++ rest) = walk (descend before parts) rest := by
  induction parts generalizing before with
  | nil => rfl
  | cons part parts ih => rw [List.cons_append, walk_cons (by simp [more]), ih]; rfl

/-- A last part that is neither of the dots is the last segment. -/
theorem walk_singleton {before : List String} {part : List Char} (one : plainDots part ≠ ['.'])
    (two : plainDots part ≠ ['.', '.']) :
    walk before [part] = before.reverse ++ [String.ofList (Percent.encode isPathChar part)] := by
  rw [walk, if_neg one, if_neg two, List.reverse_cons]

/-! ### How much the segments say -/

/-- The bytes that a segment says. -/
def said (segment : String) : List UInt8 := Percent.bytes segment.toList

theorem said_encode (part : List Char) :
    said (String.ofList (Percent.encode isPathChar part)) = Percent.bytes part := by
  rw [said, String.toList_ofList, Percent.bytes_encode]

/-- How many bytes the segments say together. -/
def weight (segments : List String) : Nat := (segments.map fun s => (said s).length).sum

@[simp] theorem weight_nil : weight [] = 0 := rfl

@[simp] theorem weight_cons (s : String) (segments : List String) :
    weight (s :: segments) = (said s).length + weight segments := by
  rw [weight, List.map_cons, List.sum_cons, weight]

@[simp] theorem weight_append (a b : List String) : weight (a ++ b) = weight a + weight b := by
  rw [weight, List.map_append, List.sum_append, weight, weight]

@[simp] theorem weight_reverse (segments : List String) :
    weight segments.reverse = weight segments := by
  rw [weight, List.map_reverse, List.sum_reverse, weight]

theorem weight_drop_le (segments : List String) (n : Nat) :
    weight (segments.drop n) ≤ weight segments := by
  have parts := congrArg weight (List.take_append_drop n segments)
  rw [weight_append] at parts
  omega

/-- How many bytes the parts have together. -/
def bulk (parts : List (List Char)) : Nat := (parts.map fun p => (Utf8.encode p).length).sum

@[simp] theorem bulk_nil : bulk [] = 0 := rfl

@[simp] theorem bulk_cons (part : List Char) (parts : List (List Char)) :
    bulk (part :: parts) = (Utf8.encode part).length + bulk parts := by
  rw [bulk, List.map_cons, List.sum_cons, bulk]

@[simp] theorem bulk_append (a b : List (List Char)) : bulk (a ++ b) = bulk a + bulk b := by
  rw [bulk, List.map_append, List.sum_append, bulk, bulk]

/-- A part adds no more than it has. -/
theorem weight_enter_le (before : List String) (part : List Char) :
    weight (enter before part) ≤ weight before + (Utf8.encode part).length := by
  have short := weight_drop_le before 1
  have said := Percent.length_bytes_le part
  unfold enter
  split
  · omega
  split
  · omega
  · rw [weight_cons, said_encode]
    omega

/-- **The segments say no more than the parts that were walked along have.** -/
theorem weight_descend_le (before : List String) (parts : List (List Char)) :
    weight (descend before parts) ≤ weight before + bulk parts := by
  induction parts generalizing before with
  | nil => simp [descend]
  | cons part parts ih =>
    have first := weight_enter_le before part
    have rest := ih (enter before part)
    rw [bulk_cons]
    change weight (descend (enter before part) parts) ≤ _
    omega

/-- The same holds if the last part is where the path ends. -/
theorem weight_walk_le (before : List String) (parts : List (List Char)) :
    weight (walk before parts) ≤ weight before + bulk parts := by
  rcases List.eq_nil_or_concat parts with rfl | ⟨front, last, rfl⟩
  · simp [walk]
  · have front_le := weight_descend_le before front
    have last_le : weight (walk (descend before front) [last]) ≤
        weight (descend before front) + (Utf8.encode last).length := by
      have short := weight_drop_le (descend before front) 1
      have said_le := Percent.length_bytes_le last
      have nothing : said "" = [] := rfl
      rw [walk]
      split
      · simp [nothing]
      split
      · rw [weight_reverse, weight_cons, nothing, List.length_nil]
        omega
      · rw [weight_reverse, weight_cons, said_encode]
        omega
    rw [List.concat_eq_append, walk_append before front (List.cons_ne_nil last []), bulk_append,
      bulk_cons, bulk_nil]
    omega

/-- The parts between slashes have the bytes of the characters that are none. -/
theorem bulk_splitWhere (cs : List Char) :
    bulk (splitWhere isSlash cs) = (Utf8.encode (cs.filter (!isSlash ·))).length := by
  induction cs with
  | nil => rfl
  | cons c cs ih =>
    rw [splitWhere]
    cases slash : isSlash c with
    | true =>
      have nothing : (Utf8.encode []).length = 0 := rfl
      rw [if_pos rfl, bulk_cons, nothing, ih, List.filter_cons_of_neg (by simp [slash])]
      omega
    | false =>
      rw [if_neg Bool.false_ne_true, List.filter_cons_of_pos (by simp [slash]),
        Utf8.length_encode_cons]
      cases parts : splitWhere isSlash cs with
      | nil => exact absurd parts (splitWhere_ne_nil _ _)
      | cons part parts' =>
        rw [parts, bulk_cons] at ih
        rw [bulk_cons, Utf8.length_encode_cons]
        omega

/-! ## Texts that stand in a path as a segment -/

/-- The characters stand between slashes as one segment that says just them. -/
structure IsSegment (cs : List Char) : Prop where
  /-- None of them ends the segment, or goes before a URL is read. -/
  uncut : ∀ c ∈ cs, c ∉ ['/', '\\', '?', '#', '\t', '\n', '\r']
  unescaped : Percent.Unescaped cs
  undotted : cs ≠ ['.'] ∧ cs ≠ ['.', '.']

/-- Without escapes, dots are written as dots. -/
theorem plainDots_of_unescaped {cs : List Char} (h : Percent.Unescaped cs) : plainDots cs = cs := by
  induction cs using plainDots.induct with
  | case1 e rest dot ih =>
    have digit : ∃ n, hexValue? e = some n := by
      rcases dot with rfl | rfl <;> exact ⟨14, by decide⟩
    obtain ⟨n, digit⟩ := digit
    exact absurd (List.suffix_refl _) (h _ ⟨'2', e, 2, n, rest, rfl, by decide, digit⟩)
  | case2 e rest other ih => rw [plainDots, if_neg other, ih h.tail.tail]
  | case3 c rest other ih => rw [plainDots, ih h.tail]; exact other
  | case4 => rfl

/-- Walking along such a part adds it to the segments. -/
theorem IsSegment.enter_eq {cs : List Char} (h : IsSegment cs) (before : List String) :
    enter before cs = String.ofList (Percent.encode isPathChar cs) :: before := by
  rw [enter, plainDots_of_unescaped h.unescaped, if_neg h.undotted.1, if_neg h.undotted.2]

/-- A part after which the segments say all of it more than before is such a part, if none of its
characters ends it. -/
theorem isSegment_of_weight {cs : List Char} {before : List String}
    (uncut : ∀ c ∈ cs, c ∉ ['/', '\\', '?', '#', '\t', '\n', '\r']) (nonempty : cs ≠ [])
    (arrived : weight before + (Utf8.encode cs).length ≤ weight (enter before cs)) :
    IsSegment cs := by
  have something : 0 < (Utf8.encode cs).length := by
    obtain ⟨c, cs, rfl⟩ := List.exists_cons_of_ne_nil nonempty
    have first := Utf8.length_encodeChar_pos c
    rw [Utf8.length_encode_cons]
    omega
  have short := weight_drop_le before 1
  unfold enter at arrived
  split at arrived
  · omega
  split at arrived
  · omega
  · next one two =>
    rw [weight_cons, said_encode] at arrived
    refine ⟨uncut, Percent.unescaped_of_length (by omega), ?_, ?_⟩
    · rintro rfl
      exact one (by decide)
    · rintro rfl
      exact two (by decide)

end ClusterBackup.Url
