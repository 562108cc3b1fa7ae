/-
ClusterBackup.Proofs.Text.Utf8 — what is written in UTF-8 is read back.

The first byte of a character announces how many bytes follow and the range
of the next one. There are four forms, by the size of the number, and each
of them is read back by itself (`decodeChar?_encodeChar`). Then a whole text
is, character by character, also by the reader that forgives faults, since
it meets none.
-/
import ClusterBackup.Text.Utf8

namespace ClusterBackup.Text.Utf8

/-- The numbers of characters: up to the surrogates, and after them up to the last one. -/
theorem toNat_range (c : Char) : c.toNat < 0xD800 ∨ 0xDFFF < c.toNat ∧ c.toNat < 0x110000 := by
  simpa [UInt32.isValidChar, Nat.isValidChar] using c.valid

theorem toNat_byte {n : Nat} (small : n < 0x100) : (UInt8.ofNat n).toNat = n := by
  simpa using Nat.mod_eq_of_lt small

/-! ## The first byte -/

theorem lead?_one {n : Nat} (small : n < 0x80) :
    lead? (UInt8.ofNat n) = some ⟨0, n, 0x80, 0xBF⟩ := by
  rw [lead?, toNat_byte (by omega)]
  exact if_pos small

theorem lead?_two {k : Nat} (low : 2 ≤ k) (high : k < 0x20) :
    lead? (UInt8.ofNat (0xC0 + k)) = some ⟨1, k, 0x80, 0xBF⟩ := by
  rw [lead?, toNat_byte (by omega), if_neg (by omega), if_neg (by omega), if_pos (by omega),
    Nat.add_sub_cancel_left]

theorem lead?_three {k : Nat} (high : k < 0x10) :
    lead? (UInt8.ofNat (0xE0 + k)) =
      some ⟨2, k, if k = 0 then 0xA0 else 0x80, if k = 0xD then 0x9F else 0xBF⟩ := by
  have first : 0xE0 + k = 0xE0 ↔ k = 0 := by omega
  have last : 0xE0 + k = 0xED ↔ k = 0xD := by omega
  rw [lead?, toNat_byte (by omega), if_neg (by omega), if_neg (by omega), if_neg (by omega),
    if_pos (by omega), Nat.add_sub_cancel_left]
  simp only [first, last]

theorem lead?_four {k : Nat} (high : k < 5) :
    lead? (UInt8.ofNat (0xF0 + k)) =
      some ⟨3, k, if k = 0 then 0x90 else 0x80, if k = 4 then 0x8F else 0xBF⟩ := by
  have first : 0xF0 + k = 0xF0 ↔ k = 0 := by omega
  have last : 0xF0 + k = 0xF4 ↔ k = 4 := by omega
  rw [lead?, toNat_byte (by omega), if_neg (by omega), if_neg (by omega), if_neg (by omega),
    if_neg (by omega), if_pos (by omega), Nat.add_sub_cancel_left]
  simp only [first, last]

/-! ## Characters -/

/-- A byte that follows adds its share to the number. -/
theorem finish?_cons {k number low high share : Nat} {bs : List UInt8} (above : low ≤ 0x80 + share)
    (below : 0x80 + share ≤ high) (small : share < 0x40) :
    finish? (k + 1) number low high (UInt8.ofNat (0x80 + share) :: bs) =
      finish? k (number * 0x40 + share) 0x80 0xBF bs := by
  have byte : (UInt8.ofNat (0x80 + share)).toNat = 0x80 + share := toNat_byte (by omega)
  rw [finish?, byte, if_pos ⟨above, below⟩, Nat.add_sub_cancel_left]

/-- A character that is written is read back, whatever follows. -/
theorem decodeChar?_encodeChar (c : Char) (rest : List UInt8) :
    ∃ b bs, encodeChar c = b :: bs ∧ decodeChar? b (bs ++ rest) = .ok (c, rest) := by
  have range := toNat_range c
  have same : Char.ofNat c.toNat = c := Char.ofNat_toNat c
  unfold encodeChar
  generalize c.toNat = n at range same
  simp only
  split
  · next one => exact ⟨_, _, rfl, by simp [decodeChar?, lead?_one one, finish?, same]⟩
  split
  · next more two =>
    have whole : n / 0x40 * 0x40 + n % 0x40 = n := by omega
    refine ⟨_, _, rfl, ?_⟩
    rw [decodeChar?, lead?_two (by omega) (by omega)]
    simp only [List.cons_append, List.nil_append]
    rw [finish?_cons (by omega) (by omega) (by omega), whole, finish?]
    simp only [same]
  split
  · next more two three =>
    have whole : (n / 0x1000 * 0x40 + n / 0x40 % 0x40) * 0x40 + n % 0x40 = n := by omega
    refine ⟨_, _, rfl, ?_⟩
    rw [decodeChar?, lead?_three (by omega)]
    simp only [List.cons_append, List.nil_append]
    -- The range of the second byte leaves out overlong forms and surrogates.
    rw [finish?_cons (by split <;> omega) (by split <;> omega) (by omega),
      finish?_cons (by omega) (by omega) (by omega), whole, finish?]
    simp only [same]
  · next more two three =>
    have whole : ((n / 0x40000 * 0x40 + n / 0x1000 % 0x40) * 0x40 + n / 0x40 % 0x40) * 0x40
        + n % 0x40 = n := by omega
    refine ⟨_, _, rfl, ?_⟩
    rw [decodeChar?, lead?_four (by omega)]
    simp only [List.cons_append, List.nil_append]
    rw [finish?_cons (by split <;> omega) (by split <;> omega) (by omega),
      finish?_cons (by omega) (by omega) (by omega),
      finish?_cons (by omega) (by omega) (by omega), whole, finish?]
    simp only [same]

/-! ## Texts -/

/-- The first character is read off the front of a text. -/
theorem decodeLossy_encodeChar_append (c : Char) (rest : List UInt8) :
    decodeLossy (encodeChar c ++ rest) = c :: decodeLossy rest := by
  obtain ⟨b, bs, written, read⟩ := decodeChar?_encodeChar c rest
  rw [written, List.cons_append, decodeLossy]
  split
  · next c' rest' found =>
    rw [read] at found
    cases found
    rfl
  · next fault =>
    rw [read] at fault
    cases fault

/-- **A text that is written is read back.** -/
theorem decodeLossy_encode (cs : List Char) : decodeLossy (encode cs) = cs := by
  induction cs with
  | nil => simp [encode, decodeLossy]
  | cons c rest ih =>
    rw [encode, List.flatMap_cons, decodeLossy_encodeChar_append, ← encode, ih]

/-! ## How many bytes there are -/

theorem length_encodeChar_pos (c : Char) : 0 < (encodeChar c).length := by
  obtain ⟨b, bs, written, -⟩ := decodeChar?_encodeChar c []
  simp [written]

theorem encode_cons (c : Char) (cs : List Char) : encode (c :: cs) = encodeChar c ++ encode cs :=
  List.flatMap_cons

theorem length_encode_cons (c : Char) (cs : List Char) :
    (encode (c :: cs)).length = (encodeChar c).length + (encode cs).length := by
  rw [encode_cons, List.length_append]

theorem length_encode_append (as bs : List Char) :
    (encode (as ++ bs)).length = (encode as).length + (encode bs).length := by
  rw [encode, List.flatMap_append, List.length_append, ← encode, ← encode]

/-- Whoever leaves characters out leaves bytes out. -/
theorem eq_or_length_encode_lt {as bs : List Char} (h : as.Sublist bs) :
    as = bs ∨ (encode as).length < (encode bs).length := by
  induction h with
  | slnil => exact .inl rfl
  | @cons as bs c _ ih =>
    have first := length_encodeChar_pos c
    have shorter : (encode as).length ≤ (encode bs).length := by
      rcases ih with rfl | shorter
      · exact Nat.le_refl _
      · exact Nat.le_of_lt shorter
    rw [length_encode_cons]
    exact .inr (by omega)
  | @cons_cons as bs c _ ih =>
    rcases ih with rfl | shorter
    · exact .inl rfl
    · rw [length_encode_cons, length_encode_cons]
      exact .inr (by omega)

end ClusterBackup.Text.Utf8
