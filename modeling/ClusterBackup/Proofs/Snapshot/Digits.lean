/-
ClusterBackup.Proofs.Snapshot.Digits — numbers written in digits are read
back.

Zeros in front do not change the value of digits, so a padded number can
be told from every other one whatever the width.
-/
import ClusterBackup.Snapshot

namespace ClusterBackup.Snapshot

/-- The value of digits is what the library reads out of them. -/
theorem value_eq_ofDigitChars (digits : List Char) :
    value digits = Nat.ofDigitChars 10 digits 0 := by
  rw [value, Nat.ofDigitChars_eq_foldl]
  simp only [Nat.mul_comm]

/-- A padded number is read back. -/
theorem value_padded (width n : Nat) : value (padded width n) = n := by
  have digits : (toString n).toList = Nat.toDigits 10 n := by
    simp [Nat.toList_repr]
  rw [value_eq_ofDigitChars, padded, digits, Nat.ofDigitChars_append,
    Nat.ofDigitChars_replicate_zero, Nat.mul_zero, Nat.ofDigitChars_ten_toDigits]

/-- Padded numbers of one width tell the numbers apart. -/
theorem padded_injective (width : Nat) {m n : Nat} (h : padded width m = padded width n) :
    m = n := by
  rw [← value_padded width m, h, value_padded]

/-- A padded number is made of digits. -/
theorem isDigit_of_mem_padded {width n : Nat} {c : Char} (h : c ∈ padded width n) :
    c.isDigit = true := by
  rcases List.mem_append.mp h with zero | digit
  · rw [(List.mem_replicate.mp zero).2]
    rfl
  · rw [Nat.toString_eq_repr, Nat.toList_repr] at digit
    exact Nat.isDigit_of_mem_toDigits (by decide) (by decide) digit

end ClusterBackup.Snapshot
