/-
ClusterBackup.Text.Lowercase — the lower case of a text.

Each character is replaced by its Unicode lower case. Two characters need
more than the table of single mappings: a capital I with a dot above
becomes two characters, and a capital sigma becomes the final form at the
end of a word, that is after a letter and not before one, marks and
modifiers aside.
-/
import ClusterBackup.Text.CaseTable

namespace ClusterBackup.Text

/-- Where the character lies in one of the inclusive ranges. -/
def inRanges (ranges : List (Nat × Nat)) (c : Char) : Bool :=
  ranges.any fun r => r.1 ≤ c.toNat && c.toNat ≤ r.2

/-- A character with case. -/
def isCased (c : Char) : Bool := inRanges casedRanges c

/-- A character that case rules look past. -/
def isCaseIgnorable (c : Char) : Bool := inRanges caseIgnorableRanges c

/-- The run that maps the character, if it has a simple lower case of its own. -/
def CaseRun.covers (r : CaseRun) (c : Char) : Bool :=
  r.first ≤ c.toNat && c.toNat ≤ r.last && (c.toNat - r.first) % r.step == 0

/-- The simple lower case of a character; the character itself where it has none. -/
def lowerChar (c : Char) : Char :=
  match lowercaseRuns.find? (·.covers c) with
  | some r => Char.ofNat (c.toNat + r.distance).toNat
  | none => c

/-- The first character that case rules do not look past has case. -/
def startsCased (cs : List Char) : Bool :=
  match cs.dropWhile isCaseIgnorable with
  | c :: _ => isCased c
  | [] => false

/-- Capital sigma, the one letter whose lower case depends on its place in the word. -/
def capitalSigma : Char := Char.ofNat 0x3A3

/-- The lower case of what follows the characters `before`, which are in reverse order. -/
def lowerAfter : List Char → List Char → List Char
  | _, [] => []
  | before, c :: rest =>
    let lower :=
      if c == capitalSigma then
        if startsCased before && !startsCased rest then [Char.ofNat 0x3C2] else [Char.ofNat 0x3C3]
      else if c.toNat == 0x130 then ['i', Char.ofNat 0x307]
      else [lowerChar c]
    lower ++ lowerAfter (c :: before) rest

/-- The text in lower case. -/
def lowercase (s : String) : String := String.ofList (lowerAfter [] s.toList)

end ClusterBackup.Text
