/-
ClusterBackup.Proofs.Text.Blank — blank texts and what is left of them.

A text is blank exactly if trimming leaves nothing, and a text without
white space is as it is when trimmed.
-/
import ClusterBackup.Text.Blank
import Mathlib.Data.List.TakeWhile

namespace ClusterBackup.Text

theorem dropSpace_eq_nil_iff (cs : List Char) : dropSpace cs = [] ↔ cs.all isSpace = true := by
  rw [dropSpace, List.dropWhile_eq_nil_iff, List.all_eq_true]

/-- Nothing but white space leaves nothing. -/
theorem trim_eq_empty_iff (s : String) : trim s = "" ↔ isBlank s = true := by
  rw [trim, isBlank, String.ofList_eq_empty_iff, trimChars, dropSpaceEnd,
    List.reverse_eq_nil_iff, dropSpace_eq_nil_iff, List.all_reverse]
  constructor
  · intro rest
    have parts : s.toList.takeWhile isSpace ++ dropSpace s.toList = s.toList :=
      List.takeWhile_append_dropWhile
    rw [← parts, List.all_append, List.all_takeWhile, rest]
    rfl
  · intro blank
    rw [(dropSpace_eq_nil_iff _).mpr blank]
    rfl

/-- Nothing is trimmed from a text that neither starts nor ends in white space. -/
theorem trim_eq_self_of_ends {s : String} (first : ∀ c ∈ s.toList.head?, isSpace c = false)
    (last : ∀ c ∈ s.toList.getLast?, isSpace c = false) : trim s = s := by
  have front : dropSpace s.toList = s.toList := dropSpace_eq_self first
  have back : dropSpace s.toList.reverse = s.toList.reverse :=
    dropSpace_eq_self fun c inside => last c (by rwa [List.head?_reverse] at inside)
  rw [trim, trimChars, front, dropSpaceEnd, back, List.reverse_reverse, String.ofList_toList]

/-- Nothing is trimmed from a text without white space. -/
theorem trim_eq_self {s : String} (solid : ∀ c ∈ s.toList, isSpace c = false) : trim s = s :=
  trim_eq_self_of_ends (fun c first => solid c (List.mem_of_mem_head? first))
    fun c last => solid c (List.mem_of_mem_getLast? last)

/-- No digit is white space. -/
theorem isSpace_of_isDigit {c : Char} (digit : c.isDigit = true) : isSpace c = false := by
  have range : 48 ≤ c.toNat ∧ c.toNat ≤ 57 := by
    simpa [Char.isDigit, UInt32.le_iff_toNat_le] using digit
  simp [isSpace]
  omega

end ClusterBackup.Text
