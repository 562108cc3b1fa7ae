/-
ClusterBackup.Proofs.Json.Strings — a string that was written is read back.

A character is written as itself, by a short escape, or by four hexadecimal
digits, and the scanner takes each of the three as the character that it
stands for (`scanString?_escapeChar`). The lemmas are stated with any rest
behind what is read, so that the string follows by induction on its
characters.
-/
import ClusterBackup.Json.Draft
import ClusterBackup.Json.Writer

namespace ClusterBackup

theorem Text.hexValue?_hexDigit {n : Nat} (small : n < 16) : hexValue? (hexDigit n) = some n := by
  revert n
  decide

namespace Json

open Text (hexDigit)

/-! ## One character -/

/-- A character that needs no escape is read as itself. -/
theorem scanString?_plain {c : Char} (printable : ¬ c.toNat < 0x20) (quote : c ≠ '"')
    (backslash : c ≠ '\\') (rest : List Char) (p : Partial) :
    scanString? (c :: rest) p = scanString? rest (p.push c) := by
  rw [scanString?]
  · rw [if_neg (by simp [printable, backslash])]
  · exact quote
  · intro _ _ _ _ _ same _
    exact backslash same
  · intro _ _ same _
    exact backslash same

/-- A short escape is read as the character that it stands for. -/
theorem scanString?_shortEscape {name c : Char} (known : (name, c) ∈ shortEscapes)
    (rest : List Char) (p : Partial) :
    scanString? ('\\' :: name :: rest) p = scanString? rest (p.push c) := by
  simp only [shortEscapes, List.mem_cons, Prod.mk.injEq, List.not_mem_nil, or_false] at known
  rcases known with h | h | h | h | h | h | h <;> obtain ⟨rfl, rfl⟩ := h <;> rfl

/-- The two digits of a control character are those of its number. -/
theorem hex4?_control {n : Nat} (control : n < 0x20) :
    hex4? '0' '0' (hexDigit (n / 16)) (hexDigit (n % 16)) = some n := by
  have high := Text.hexValue?_hexDigit (n := n / 16) (by omega)
  have low := Text.hexValue?_hexDigit (n := n % 16) (by omega)
  have zero : Text.hexValue? '0' = some 0 := by decide
  simp only [hex4?, zero, high, low, Option.bind_eq_bind, Option.bind_some, Option.pure_def,
    Option.some.injEq]
  omega

theorem pushUnit_of_small {n : Nat} (small : n < 0x20) (p : Partial) :
    p.pushUnit n = p.push (Char.ofNat n) := by
  rw [Partial.pushUnit, if_neg (by omega), if_neg (by omega)]

/-- A character is read back, however it is written. -/
theorem scanString?_escapeChar (c : Char) (rest : List Char) (p : Partial) :
    scanString? (escapeChar c ++ rest) p = scanString? rest (p.push c) := by
  unfold escapeChar
  split
  · next name x found =>
    have known := List.mem_of_find?_eq_some found
    have same : x = c := by simpa using List.find?_some found
    subst same
    exact scanString?_shortEscape known rest p
  · next unescaped =>
    rw [List.find?_eq_none] at unescaped
    have quote : c ≠ '"' := fun same => unescaped ('"', '"') (by simp [shortEscapes]) (by simp [same])
    have backslash : c ≠ '\\' :=
      fun same => unescaped ('\\', '\\') (by simp [shortEscapes]) (by simp [same])
    split
    · next control =>
      simp only [List.cons_append, List.nil_append]
      rw [scanString?, hex4?_control control]
      simp only [pushUnit_of_small control, Char.ofNat_toNat]
    · next printable => exact scanString?_plain printable quote backslash rest p

/-! ## Whole strings -/

/-- Characters that were written are added to those that were read before. -/
theorem scanString?_flatMap_escapeChar (cs read rest : List Char) :
    scanString? (cs.flatMap escapeChar ++ '"' :: rest) ⟨some read, none⟩ =
      some (some (String.ofList (read.reverse ++ cs)), rest) := by
  induction cs generalizing read with
  | nil => simp [scanString?, Partial.text?]
  | cons c cs ih =>
    rw [List.flatMap_cons, List.append_assoc, scanString?_escapeChar]
    simp only [Partial.push, Option.isSome_none, Bool.false_eq_true, if_false, Option.map_some]
    rw [ih, List.reverse_cons, List.append_assoc, List.singleton_append]

/-- A string that was written is read back, with what follows it. -/
theorem scanString?_quote (s : String) (rest : List Char) :
    scanString? (s.toList.flatMap escapeChar ++ '"' :: rest) .empty = some (some s, rest) := by
  simpa [Partial.empty] using scanString?_flatMap_escapeChar s.toList [] rest

end Json

end ClusterBackup
