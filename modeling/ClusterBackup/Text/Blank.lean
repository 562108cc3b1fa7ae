/-
ClusterBackup.Text.Blank — white space, trimming and blank texts.

White space is the Unicode property White_Space, not the ASCII class: a
no-break space or an ideographic space around a collection name is
removed, a zero-width space is not. `trim` removes white space at both
ends, `isBlank` holds of the texts of which nothing would remain, and
`trim_trim` says that a trimmed text is already in its final form, which
is what lets a type demand it.
-/

namespace ClusterBackup.Text

/-- Unicode White_Space. -/
def isSpace (c : Char) : Bool :=
  let n := c.toNat
  (0x09 ≤ n && n ≤ 0x0D) || n == 0x20 || n == 0x85 || n == 0xA0 || n == 0x1680
    || (0x2000 ≤ n && n ≤ 0x200A) || n == 0x2028 || n == 0x2029 || n == 0x202F
    || n == 0x205F || n == 0x3000

/-! ## On characters -/

/-- The characters from the first one that is not white space on. -/
def dropSpace (cs : List Char) : List Char := cs.dropWhile isSpace

/-- The characters without the white space at their end. -/
def dropSpaceEnd (cs : List Char) : List Char := (dropSpace cs.reverse).reverse

/-- The characters without the white space at either end. -/
def trimChars (cs : List Char) : List Char := dropSpaceEnd (dropSpace cs)

/-- A non-empty remainder of `dropSpace` starts with a character that is not white space. -/
theorem head_dropSpace {cs : List Char} {c : Char} (h : (dropSpace cs).head? = some c) :
    isSpace c = false := by
  induction cs with
  | nil => simp [dropSpace] at h
  | cons d r ih =>
    by_cases hd : isSpace d = true
    · exact ih (by simpa [dropSpace, List.dropWhile_cons, hd] using h)
    · have hd : isSpace d = false := by simpa using hd
      simp [dropSpace, hd] at h
      exact h ▸ hd

/-- Nothing is dropped from characters that start with none of white space. -/
theorem dropSpace_eq_self {cs : List Char} (h : ∀ c ∈ cs.head?, isSpace c = false) :
    dropSpace cs = cs := by
  cases cs with
  | nil => rfl
  | cons c r => simp [dropSpace, h c (by simp)]

/-- Dropping leading white space twice drops no more. -/
theorem dropSpace_dropSpace (cs : List Char) : dropSpace (dropSpace cs) = dropSpace cs :=
  dropSpace_eq_self fun _ hc => head_dropSpace (by simpa using hc)

/-- Dropping at the end leaves a front part of the characters. -/
theorem dropSpaceEnd_isPrefix (cs : List Char) : dropSpaceEnd cs <+: cs := by
  have h : dropSpace cs.reverse <:+ cs.reverse := List.dropWhile_suffix _
  simpa [dropSpaceEnd] using List.reverse_prefix.2 h

/-- Trimmed characters stay as they are when trimmed again. -/
theorem trimChars_trimChars (cs : List Char) : trimChars (trimChars cs) = trimChars cs := by
  have front : dropSpace (trimChars cs) = trimChars cs := by
    refine dropSpace_eq_self fun c hc => ?_
    obtain ⟨t, ht⟩ := dropSpaceEnd_isPrefix (dropSpace cs)
    refine @head_dropSpace cs c ?_
    rw [← ht]
    change c ∈ (trimChars cs).head? at hc
    cases htrim : trimChars cs with
    | nil => simp [htrim] at hc
    | cons d r =>
      have : dropSpaceEnd (dropSpace cs) = d :: r := htrim
      simp [htrim] at hc
      simp [this, hc]
  calc trimChars (trimChars cs) = dropSpaceEnd (trimChars cs) := by rw [trimChars, front]
    _ = trimChars cs := by simp [trimChars, dropSpaceEnd, dropSpace_dropSpace]

/-! ## On texts -/

/-- The text without the white space at either end. -/
def trim (s : String) : String := String.ofList (trimChars s.toList)

/-- Nothing but white space. -/
def isBlank (s : String) : Bool := s.toList.all isSpace

/-- A trimmed text stays as it is when trimmed again. -/
theorem trim_trim (s : String) : trim (trim s) = trim s := by
  simp [trim, trimChars_trimChars]

/-- The text, unless it is blank. -/
def nonBlank? (s : String) : Option String := if isBlank s then none else some s

end ClusterBackup.Text
