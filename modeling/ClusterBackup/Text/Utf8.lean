/-
ClusterBackup.Text.Utf8 — characters as bytes and back.

`encodeChar` writes a character in one to four bytes. `decodeChar?` reads
one back, refusing overlong forms, surrogates and numbers beyond the last
character. Two readers of whole byte sequences stand on it: `decode?`
refuses a sequence with a fault anywhere, `decodeLossy` puts the
replacement character in the place of every maximal part that no
character could start with.
-/

namespace ClusterBackup.Text.Utf8

/-- The bytes of one character. -/
def encodeChar (c : Char) : List UInt8 :=
  let n := c.toNat
  if n < 0x80 then [UInt8.ofNat n]
  else if n < 0x800 then [UInt8.ofNat (0xC0 + n / 0x40), UInt8.ofNat (0x80 + n % 0x40)]
  else if n < 0x10000 then
    [UInt8.ofNat (0xE0 + n / 0x1000), UInt8.ofNat (0x80 + n / 0x40 % 0x40),
      UInt8.ofNat (0x80 + n % 0x40)]
  else
    [UInt8.ofNat (0xF0 + n / 0x40000), UInt8.ofNat (0x80 + n / 0x1000 % 0x40),
      UInt8.ofNat (0x80 + n / 0x40 % 0x40), UInt8.ofNat (0x80 + n % 0x40)]

/-- The bytes of a text. -/
def encode (cs : List Char) : List UInt8 := cs.flatMap encodeChar

/-- What a byte announces when a character starts with it: how many bytes follow, its own share of
the number, and the range of the byte after it. -/
structure Lead where
  following : Nat
  share : Nat
  low : Nat
  high : Nat

/-- The announcement of a leading byte; none for a byte that starts no character. -/
def lead? (b : UInt8) : Option Lead :=
  let n := b.toNat
  if n < 0x80 then some ⟨0, n, 0x80, 0xBF⟩
  else if n < 0xC2 then none
  else if n < 0xE0 then some ⟨1, n - 0xC0, 0x80, 0xBF⟩
  else if n < 0xF0 then
    some ⟨2, n - 0xE0, if n = 0xE0 then 0xA0 else 0x80, if n = 0xED then 0x9F else 0xBF⟩
  else if n < 0xF5 then
    some ⟨3, n - 0xF0, if n = 0xF0 then 0x90 else 0x80, if n = 0xF4 then 0x8F else 0xBF⟩
  else none

/-- Reads `following` more bytes of a character, the first of them within `low` and `high`. The
answer is the number so far and the bytes not read, or the bytes at the place of the fault. -/
def finish? (following number low high : Nat) (bs : List UInt8) :
    Except (List UInt8) (Nat × List UInt8) :=
  match following, bs with
  | 0, bs => .ok (number, bs)
  | _ + 1, [] => .error []
  | k + 1, b :: rest =>
    if low ≤ b.toNat ∧ b.toNat ≤ high then
      finish? k (number * 0x40 + (b.toNat - 0x80)) 0x80 0xBF rest
    else .error (b :: rest)

/-- One character from the front of the bytes and the bytes after it, or the bytes after the part
that is at fault. -/
def decodeChar? (b : UInt8) (bs : List UInt8) : Except (List UInt8) (Char × List UInt8) :=
  match lead? b with
  | none => .error bs
  | some l =>
    match finish? l.following l.share l.low l.high bs with
    | .ok (n, rest) => .ok (Char.ofNat n, rest)
    | .error rest => .error rest

/-- What `finish?` leaves is no longer than what it was given. -/
theorem finish?_length {following number low high : Nat} {bs rest : List UInt8}
    (h : finish? following number low high bs = .error rest ∨
      ∃ n, finish? following number low high bs = .ok (n, rest)) :
    rest.length ≤ bs.length := by
  induction following generalizing number low high bs with
  | zero =>
    rcases h with h | ⟨n, h⟩
    · simp [finish?] at h
    · simp [finish?] at h
      simp [h.2]
  | succ k ih =>
    cases bs with
    | nil =>
      rcases h with h | ⟨n, h⟩
      · simp [finish?] at h
        simp [h]
      · simp [finish?] at h
    | cons b bs =>
      simp only [finish?] at h
      split at h
      · exact Nat.le_succ_of_le (ih h)
      · rcases h with h | ⟨n, h⟩
        · simp at h
          simp [← h]
        · simp at h

/-- Reading a character leaves no more than what followed its first byte. -/
theorem decodeChar?_length {b : UInt8} {bs rest : List UInt8}
    (h : decodeChar? b bs = .error rest ∨ ∃ c, decodeChar? b bs = .ok (c, rest)) :
    rest.length ≤ bs.length := by
  unfold decodeChar? at h
  split at h
  · rcases h with h | ⟨c, h⟩
    · simp at h
      simp [h]
    · simp at h
  · split at h
    · rename_i n rest' hc
      have same : rest' = rest := by simpa using h
      exact same ▸ finish?_length (.inr ⟨n, hc⟩)
    · rename_i rest' hc
      have same : rest' = rest := by simpa using h
      exact same ▸ finish?_length (.inl hc)

/-- The text that the bytes write, if they write one. -/
def decode? : List UInt8 → Option (List Char)
  | [] => some []
  | b :: bs =>
    match h : decodeChar? b bs with
    | .ok (c, rest) =>
      have : rest.length ≤ bs.length := decodeChar?_length (.inr ⟨c, h⟩)
      (decode? rest).map (c :: ·)
    | .error _ => none
termination_by bs => bs.length

/-- The character that stands for what could not be read. -/
def replacement : Char := Char.ofNat 0xFFFD

/-- The text of the bytes, with the replacement character for each part that writes none. -/
def decodeLossy : List UInt8 → List Char
  | [] => []
  | b :: bs =>
    match h : decodeChar? b bs with
    | .ok (c, rest) =>
      have : rest.length ≤ bs.length := decodeChar?_length (.inr ⟨c, h⟩)
      c :: decodeLossy rest
    | .error rest =>
      have : rest.length ≤ bs.length := decodeChar?_length (.inl h)
      replacement :: decodeLossy rest
termination_by bs => bs.length

end ClusterBackup.Text.Utf8
