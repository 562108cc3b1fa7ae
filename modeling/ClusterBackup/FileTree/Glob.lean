/-
ClusterBackup.FileTree.Glob — patterns for paths.

A pattern is a path with wildcards: a question mark for one character, a
star for any number of them within a name, brackets for one character of a
set, and two stars as a whole part for any number of directories. A part
without wildcards is followed as it is; a part with wildcards is compared
with the names in the directory, hidden ones among them, and with dot and
double dot only if it starts with a dot.
-/
import ClusterBackup.FileTree

namespace ClusterBackup

/-- One step of a pattern for names. -/
inductive Glob.Token where
  | char (c : Char)
  | anyChar
  | anyText
  /-- One character of the ranges, or one outside of them. -/
  | oneOf (negated : Bool) (ranges : List (Char × Char))
  /-- Any number of directories. -/
  | anyDepth
deriving DecidableEq, Repr

/-- A pattern for one part of a path. -/
abbrev Glob.Part := List Glob.Token

/-- One step along a path. -/
inductive Glob.Step where
  /-- An entry of the directory. -/
  | entry (part : Glob.Part)
  /-- An entry at any depth. -/
  | descendant (part : Glob.Part)
  /-- Any directory at any depth. -/
  | directories
deriving DecidableEq, Repr

/-- A pattern for paths. -/
structure Glob where
  /-- The path starts at the root. -/
  absolute : Bool
  steps : List Glob.Step
deriving DecidableEq, Repr

namespace Glob

/-! ## Reading a pattern -/

/-- What is wrong with a pattern. -/
inductive FaultKind where
  | wildcards
  | recursiveWildcards
  | range
deriving DecidableEq, Repr

/-- The words for what is wrong. -/
def FaultKind.message : FaultKind → String
  | wildcards => "wildcards are either regular " ++ backquoted "*" ++ " or recursive "
      ++ backquoted "**"
  | recursiveWildcards => "recursive wildcards must form a single path component"
  | range => "invalid range pattern"
where
  backquoted (s : String) : String := "\x60" ++ s ++ "\x60"

/-- What is wrong with a pattern, and where. -/
structure Fault where
  position : Nat
  kind : FaultKind
deriving DecidableEq, Repr

/-- The full text of the fault. -/
def Fault.message (f : Fault) : String :=
  "Pattern syntax error near position " ++ toString f.position ++ ": " ++ f.kind.message

/-- The ranges of a set; a character alone is a range of one. -/
def readRanges : List Char → List (Char × Char)
  | a :: '-' :: b :: rest => (a, b) :: readRanges rest
  | a :: rest => (a, a) :: readRanges rest
  | [] => []

/-- The set after an opening bracket, with the characters after its closing bracket, which is not
the first character of the set. -/
def readSet? (cs : List Char) : Option (Token × List Char) :=
  let negated := cs.head? = some '!'
  match if negated then cs.drop 1 else cs with
  | [] => none
  | a :: more =>
    let inner := more.takeWhile (· != ']')
    match more.drop inner.length with
    | [] => none
    | _ :: rest => some (.oneOf negated (readRanges (a :: inner)), rest)

/-- A set takes characters away. -/
theorem readSet?_length {cs rest : List Char} {t : Token} (h : readSet? cs = some (t, rest)) :
    rest.length < cs.length := by
  simp only [readSet?] at h
  split at h
  · simp at h
  · rename_i a more hm
    split at h
    · simp at h
    · rename_i b r hr
      simp at h
      have drop := congrArg List.length hr
      have all : more.length < cs.length := by
        split at hm
        · have := congrArg List.length hm
          simp at this
          omega
        · simp [hm]
      simp at drop
      rw [← h.2]
      omega

/-- Reads a pattern from a position on, after the character before it. -/
def readTokens (position : Nat) (before : Option Char) : List Char → Except Fault (List Token)
  | [] => .ok []
  | c :: rest =>
    if c = '?' then do return .anyChar :: (← readTokens (position + 1) (some c) rest)
    else if c = '*' then
      match rest with
      | '*' :: '*' :: _ => .error ⟨position + 2, .wildcards⟩
      | '*' :: rest =>
        if before = none ∨ before = some '/' then
          match rest with
          | [] => .ok [.anyDepth]
          | d :: rest =>
            if d = '/' then do
              return .anyDepth :: (← readTokens (position + 3) (some '/') rest)
            else .error ⟨position + 2, .recursiveWildcards⟩
        else .error ⟨position - 1, .recursiveWildcards⟩
      | rest => do return .anyText :: (← readTokens (position + 1) (some c) rest)
    else if c = '[' then
      match h : readSet? rest with
      | some (set, after) =>
        have := readSet?_length h
        let next := position + (rest.length - after.length) + 1
        do return set :: (← readTokens next (some ']') after)
      | none => .error ⟨position, .range⟩
    else do return .char c :: (← readTokens (position + 1) (some c) rest)
termination_by cs => cs.length

/-- The steps that the parts of a pattern make. -/
def stepsOf : List Part → List Step
  | [] => []
  | p :: ps =>
    if p = [.anyDepth] then
      match stepsOf ps with
      | [] => [.directories]
      | .entry q :: rest => .descendant q :: rest
      | steps => steps
    else .entry p :: stepsOf ps

/-- The pattern that a text writes. The text is read as a whole first, and then part by part, so a
set cannot hold a slash. -/
def parse? (s : String) : Except Fault Glob := do
  let _ ← readTokens 0 none s.toList
  let (absolute, rest) := match s.toList with
    | '/' :: rest => (true, rest)
    | cs => (false, cs)
  return ⟨absolute, stepsOf (← (Text.splitWhere (· == '/') rest).mapM (readTokens 0 none))⟩

/-! ## Names -/

/-- The token stands for the character. -/
def Token.matchesChar (c : Char) : Token → Bool
  | char d => c == d
  | oneOf negated ranges => (ranges.any fun r => r.1 ≤ c && c ≤ r.2) != negated
  | _ => true

/-- The pattern stands for the name. -/
def matchesName : Part → List Char → Bool
  | [], cs => cs.isEmpty
  | t :: ts, cs =>
    if t = .anyText ∨ t = .anyDepth then
      matchesName ts cs || (match cs with
        | _ :: rest => matchesName (t :: ts) rest
        | [] => false)
    else
      match cs with
      | c :: rest => t.matchesChar c && matchesName ts rest
      | [] => false
termination_by ts cs => (ts.length, cs.length)

/-- The character that a token is. -/
def Token.literal? : Token → Option Char
  | char c => some c
  | _ => none

/-- The name that a part without wildcards is. -/
def literal? (p : Part) : Option String := (p.mapM Token.literal?).map String.ofList

/-- The part starts with a dot. -/
def startsWithDot (p : Part) : Bool := p.head? == some (.char '.')

/-! ## Paths -/

/-- The place of an entry that a part names; none if it does not exist. An empty part or a dot stays
at the place, but nothing is not a path. -/
def follow? (fs : FileSystem) (place : FileTree.Place) (atStart : Bool) (name : String) :
    Option FileTree.Place :=
  if name = "" ∧ atStart then none else (fs.follow place [name]).toOption

/-- Everything below a place. -/
def descendants (fs : FileSystem) (place : FileTree.Place) : List (FileTree.Place × FileTree) :=
  ((fs.at? place).map (·.descendants place)).getD []

/-- The names in a directory that a part is compared with. -/
def candidates (fs : FileSystem) (place : FileTree.Place) (p : Part) : List String :=
  (if startsWithDot p then ["..", "."] else [])
    ++ (((fs.at? place).map (·.entries)).getD []).map (·.1)

/-- The names that a part stands for in a directory. -/
def namesAt (fs : FileSystem) (place : FileTree.Place) (p : Part) : List String :=
  match literal? p with
  | some name => [name]
  | none => (candidates fs place p).filter fun name => matchesName p name.toList

/-- The names of the entries that the steps lead to from a place. -/
def namesFrom (fs : FileSystem) : List Step → FileTree.Place → (atStart : Bool) → List String
  | [], _, _ => []
  | .directories :: _, place, _ =>
    (descendants fs place).filterMap fun e => if e.2.isDirectory then e.1.head? else none
  | .descendant p :: steps, place, _ =>
    (descendants fs place).flatMap fun e =>
      match e.1.head? with
      | none => []
      | some name =>
        if matchesName p name.toList then
          if steps.isEmpty then [name] else namesFrom fs steps e.1 false
        else []
  | .entry p :: steps, place, atStart =>
    (namesAt fs place p).flatMap fun name =>
      match follow? fs place atStart name with
      | none => []
      | some next =>
        if steps.isEmpty then [name] else namesFrom fs steps next (atStart && name == ".")

/-- The names of the entries that the pattern stands for. -/
def names (fs : FileSystem) (g : Glob) : List String :=
  if g.absolute then namesFrom fs g.steps [] false
  else namesFrom fs g.steps fs.working true

end Glob

end ClusterBackup
