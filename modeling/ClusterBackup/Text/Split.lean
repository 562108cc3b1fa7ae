/-
ClusterBackup.Text.Split — characters between separators.

`splitWhere` gives the parts between the separators, one more than there
are separators, so there is always a part. `cut` divides at the first
separator only.
-/

namespace ClusterBackup.Text

/-- The parts between the separators. -/
def splitWhere (isSeparator : Char → Bool) : List Char → List (List Char)
  | [] => [[]]
  | c :: rest =>
    if isSeparator c then [] :: splitWhere isSeparator rest
    else
      match splitWhere isSeparator rest with
      | part :: parts => (c :: part) :: parts
      | [] => [[c]]

/-- There is always a part. -/
theorem splitWhere_ne_nil (isSeparator : Char → Bool) (cs : List Char) :
    splitWhere isSeparator cs ≠ [] := by
  cases cs with
  | nil => simp [splitWhere]
  | cons c rest =>
    simp only [splitWhere]
    split
    · simp
    · split <;> simp

/-- The characters before and after the first separator; all of them and none if there is none. -/
def cut (separator : Char) : List Char → List Char × List Char
  | [] => ([], [])
  | c :: rest =>
    if c = separator then ([], rest)
    else
      let (before, after) := cut separator rest
      (c :: before, after)

end ClusterBackup.Text
