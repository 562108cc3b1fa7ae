/-
ClusterBackup.Proofs.Text.Split — what stands between separators.

A separator divides the parts before it from those behind it, so the parts
of a text that was put together are known; and the parts hold nothing but
what stands in the text.
-/
import ClusterBackup.Text.Split

namespace ClusterBackup.Text

variable {isSeparator : Char → Bool}

/-- A separator divides what is before it from what is after it. -/
theorem splitWhere_append_cons {c : Char} (separator : isSeparator c = true) (a b : List Char) :
    splitWhere isSeparator (a ++ c :: b) = splitWhere isSeparator a ++ splitWhere isSeparator b := by
  induction a with
  | nil => simp [splitWhere, separator]
  | cons d a ih =>
    simp only [List.cons_append, splitWhere, ih]
    split
    · rfl
    · cases parts : splitWhere isSeparator a with
      | nil => exact absurd parts (splitWhere_ne_nil _ _)
      | cons part parts => rfl

/-- Without a separator there is one part. -/
theorem splitWhere_eq_singleton {cs : List Char} (none : ∀ c ∈ cs, isSeparator c = false) :
    splitWhere isSeparator cs = [cs] := by
  induction cs with
  | nil => rfl
  | cons c cs ih =>
    rw [splitWhere, none c List.mem_cons_self, ih fun d inside =>
      none d (List.mem_cons_of_mem _ inside)]
    simp

/-- The first part starts with the first character. -/
theorem exists_splitWhere_cons {c : Char} (other : isSeparator c = false) (cs : List Char) :
    ∃ part parts, splitWhere isSeparator (c :: cs) = (c :: part) :: parts := by
  rw [splitWhere, other]
  cases parts : splitWhere isSeparator cs with
  | nil => exact absurd parts (splitWhere_ne_nil _ _)
  | cons part others => exact ⟨part, others, rfl⟩

/-- What stands before the first separator may as well be put there after cutting. -/
theorem cut_append {separator : Char} {a : List Char} (none : separator ∉ a) (b : List Char) :
    cut separator (a ++ b) = (a ++ (cut separator b).1, (cut separator b).2) := by
  induction a with
  | nil => rfl
  | cons c a ih =>
    rw [List.mem_cons, not_or] at none
    rw [List.cons_append, cut, if_neg (Ne.symm none.1), ih none.2, List.cons_append]

theorem cut_append_cons {separator : Char} {a : List Char} (none : separator ∉ a) (b : List Char) :
    cut separator (a ++ separator :: b) = (a, b) := by
  rw [cut_append none, cut, if_pos rfl, List.append_nil]

/-- Before the first separator are the characters up to it. -/
theorem fst_cut (separator : Char) (cs : List Char) :
    (cut separator cs).1 = cs.takeWhile (· != separator) := by
  induction cs with
  | nil => rfl
  | cons c cs ih =>
    rw [cut]
    split
    · next same => simp [same]
    · next other => simp [other, ih]

/-- The parts are made of what stands in the text. -/
theorem mem_of_mem_splitWhere {cs part : List Char} (inside : part ∈ splitWhere isSeparator cs)
    {c : Char} (member : c ∈ part) : c ∈ cs := by
  induction cs generalizing part with
  | nil =>
    rw [splitWhere, List.mem_singleton] at inside
    rwa [inside] at member
  | cons d cs ih =>
    rw [splitWhere] at inside
    split at inside
    · rcases List.mem_cons.mp inside with rfl | inside
      · cases member
      · exact List.mem_cons_of_mem d (ih inside member)
    · cases parts : splitWhere isSeparator cs with
      | nil => exact absurd parts (splitWhere_ne_nil _ _)
      | cons first others =>
        rw [parts] at inside ih
        rcases List.mem_cons.mp inside with rfl | inside
        · rcases List.mem_cons.mp member with rfl | member
          · exact List.mem_cons_self
          · exact List.mem_cons_of_mem d (ih List.mem_cons_self member)
        · exact List.mem_cons_of_mem d (ih (List.mem_cons_of_mem _ inside) member)

end ClusterBackup.Text
