/-
ClusterBackup.Yaml.Scalar — scalars in their five styles.

Plain and quoted scalars fold their lines: a single line break becomes a
space, of several the first is dropped. Block scalars keep their lines
(literal) or fold them (folded), less the indentation that they share;
what becomes of the line breaks at their end is up to their header.
Everything that is not a scalar of its style is refused.
-/
import ClusterBackup.Yaml.Cursor
import ClusterBackup.Text.Hex

namespace ClusterBackup.Yaml

/-- How a scalar is written. -/
inductive Style where
  | plain
  | quoted
  | literal
  | folded
deriving DecidableEq, Repr

/-! ## Folding -/

/-- The text of a scalar so far, and the white space after it that may still be folded. -/
structure Fold where
  text : List Char := []
  /-- Blanks after the text. -/
  blanks : List Char := []
  /-- The first line break after the text. -/
  first : List Char := []
  /-- The line breaks after that one. -/
  more : List Char := []
  /-- A line break has come up after the text. -/
  broken : Bool := false

namespace Fold

/-- The white space as it is folded. -/
def gap (f : Fold) : List Char :=
  if f.broken then
    if f.first = ['\n'] then (if f.more.isEmpty then [' '] else f.more)
    else f.first ++ f.more
  else f.blanks

/-- The text with the white space folded in. -/
def join (f : Fold) : Fold := { text := f.text ++ f.gap }

/-- The text with characters added. -/
def push (f : Fold) (cs : List Char) : Fold := { f with text := f.text ++ cs }

/-- A line break follows. -/
def newline (f : Fold) (lineBreak : List Char) : Fold :=
  if f.broken then { f with more := f.more ++ lineBreak }
  else { f with blanks := [], first := lineBreak, broken := true }

/-- Passes white space. A tab at the start of a line within the indentation is refused. -/
def passSpace (indent : Int) : (fuel : Nat) → Fold → Cursor → Option (Fold × Cursor)
  | 0, f, c => some (f, c)
  | fuel + 1, f, c =>
    match c.peek? 0 with
    | none => some (f, c)
    | some d =>
      if isBlank d then
        if f.broken then
          if c.column < indent ∧ d = '\t' then none
          else passSpace indent fuel f c.skip
        else passSpace indent fuel { f with blanks := f.blanks ++ [d] } c.skip
      else if isBreak d then
        let (lineBreak, c) := c.newline
        passSpace indent fuel (f.newline lineBreak) c
      else some (f, c)

end Fold

/-! ## Plain scalars -/

/-- Characters that end a plain scalar within brackets. -/
def isFlowIndicator (c : Char) : Bool := [',', '[', ']', '\x7b', '\x7d'].contains c

/-- One word of a plain scalar, up to white space or to what ends the scalar. -/
def plainWord (inFlow : Bool) : (fuel : Nat) → List Char → Cursor → Option (List Char × Cursor)
  | 0, word, c => some (word.reverse, c)
  | fuel + 1, word, c =>
    match c.peek? 0 with
    | none => some (word.reverse, c)
    | some d =>
      if isBlank d || isBreak d then some (word.reverse, c)
      else if inFlow && d == ':' && c.ahead? (fun e => isFlowIndicator e || e == '?') 1 then none
      else if (d == ':' && c.endsWord 1) || (inFlow && isFlowIndicator d) then
        some (word.reverse, c)
      else plainWord inFlow fuel (d :: word) c.skip

/-- The words of a plain scalar, its lines indented by at least `indent`. The answer says also
whether a line break came after the text. -/
def plainWords (inFlow : Bool) (indent : Int) :
    (fuel : Nat) → Fold → Cursor → Option (List Char × Bool × Cursor)
  | 0, f, c => some (f.text, f.broken, c)
  | fuel + 1, f, c =>
    if c.seesMark '-' || c.seesMark '.' || c.sees '#' then some (f.text, f.broken, c)
    else do
      let (word, c) ← plainWord inFlow (c.ahead.length + 1) [] c
      let f := if word.isEmpty then f else f.join.push word
      if c.ahead? (fun d => isBlank d || isBreak d) then
        let (f, c) ← f.passSpace indent (c.ahead.length + 1) c
        if !inFlow && (c.column : Int) < indent then return (f.text, f.broken, c)
        else plainWords inFlow indent fuel f c
      else return (f.text, f.broken, c)

/-- A plain scalar: its text, whether it ends at a line break, and the place behind it. -/
def plain? (inFlow : Bool) (indent : Int) (c : Cursor) : Option (List Char × Bool × Cursor) :=
  plainWords inFlow indent (c.ahead.length + 1) {} c

/-! ## Quoted scalars -/

/-- The character that a letter stands for after a backslash. -/
def escapes : List (Char × Nat) :=
  [('0', 0), ('a', 7), ('b', 8), ('t', 9), ('\t', 9), ('n', 10), ('v', 11), ('f', 12), ('r', 13),
    ('e', 27), (' ', 32), ('"', 34), ('/', 47), ('\\', 92), ('N', 0x85), ('_', 0xA0),
    ('L', 0x2028), ('P', 0x2029)]

/-- The number of hexadecimal digits after a letter that is followed by some. -/
def escapeWidths : List (Char × Nat) := [('x', 2), ('u', 4), ('U', 8)]

/-- The number that hexadecimal digits write. -/
def hexNumber? (cs : List Char) : Option Nat :=
  cs.foldl (fun n c => do return (← n) * 16 + (← Text.hexValue? c)) (some 0)

/-- The character of an escape, and the place behind it. -/
def escape? (c : Cursor) : Option (Char × Cursor) := do
  let letter ← c.peek? 1
  match escapes.lookup letter with
  | some n => some (Char.ofNat n, c.skip 2)
  | none =>
    let width ← escapeWidths.lookup letter
    let digits := (c.ahead.drop 2).take width
    if digits.length = width then
      let n ← hexNumber? digits
      if n.isValidChar then some (Char.ofNat n, c.skip (2 + width)) else none
    else none

/-- One word of a quoted scalar, up to white space or to the closing quote. The answer says also
whether the word ended in a line break that was taken back. -/
def quotedWord (single : Bool) :
    (fuel : Nat) → List Char → Cursor → Option (List Char × Bool × Cursor)
  | 0, word, c => some (word.reverse, false, c)
  | fuel + 1, word, c =>
    match c.peek? 0 with
    | none => some (word.reverse, false, c)
    | some d =>
      if isBlank d || isBreak d then some (word.reverse, false, c)
      else if single && d == '\'' && c.sees '\'' 1 then
        quotedWord single fuel ('\'' :: word) (c.skip 2)
      else if d == (if single then '\'' else '"') then some (word.reverse, false, c)
      else if !single && d == '\\' then
        if c.ahead? isBreak 1 then some (word.reverse, true, (c.skip).newline.2)
        else do
          let (e, c) ← escape? c
          quotedWord single fuel (e :: word) c
      else quotedWord single fuel (d :: word) c.skip

/-- The words of a quoted scalar up to its closing quote, and the place behind that. -/
def quotedWords (single : Bool) : (fuel : Nat) → List Char → Cursor → Option (List Char × Cursor)
  | 0, _, _ => none
  | fuel + 1, text, c =>
    if c.seesMark '-' || c.seesMark '.' || c.atEnd then none
    else do
      let (word, broken, c) ← quotedWord single (c.ahead.length + 1) [] c
      if c.sees (if single then '\'' else '"') then return (text ++ word, c.skip)
      else
        let (f, c) ← Fold.passSpace (-1) (c.ahead.length + 1) { text := text ++ word, broken } c
        quotedWords single fuel f.join.text c

/-- A quoted scalar after its opening quote. -/
def quoted? (single : Bool) (c : Cursor) : Option (List Char × Cursor) :=
  quotedWords single (c.ahead.length + 1) [] c

/-! ## Block scalars -/

/-- What becomes of the line breaks at the end. -/
inductive Chomping where
  | strip
  | clip
  | keep
deriving DecidableEq

/-- The chomping that a sign asks for. -/
def Chomping.ofChar? : Char → Option Chomping
  | '+' => some .keep
  | '-' => some .strip
  | _ => none

/-- The header of a block scalar: chomping and indentation, in either order. -/
def blockHeader? (c : Cursor) : Option (Chomping × Option Nat × Cursor) :=
  let digit? (c : Cursor) : Option (Option Nat × Cursor) :=
    match c.peek? 0 with
    | some d =>
      if d.isDigit then (if d = '0' then none else some (some (d.toNat - '0'.toNat), c.skip))
      else some (none, c)
    | none => some (none, c)
  let sign (c : Cursor) : Option Chomping × Cursor :=
    match (c.peek? 0).bind Chomping.ofChar? with
    | some m => (some m, c.skip)
    | none => (none, c)
  do
    let (before, c) := sign c
    let (indent, c) ← digit? c
    let (after, c) := if before.isNone && indent.isSome then sign c else (none, c)
    let c := (c.skipWhile isBlank).skipComment
    if c.endsLine then return (((before.or after).getD .clip), indent, c.newline.2) else none

/-- Passes indentation and empty lines: their line breaks, the widest column that was reached, and
the place behind them. A tab within the indentation is refused. -/
def blockBreaks (indent : Option Nat) :
    (fuel : Nat) → List Char → (widest : Nat) → Cursor → Option (List Char × Nat × Cursor)
  | 0, breaks, widest, c => some (breaks, widest, c)
  | fuel + 1, breaks, widest, c =>
    let within (column : Nat) : Bool := match indent with
      | some n => column < n
      | none => true
    let spaces := (c.ahead.takeWhile (· == ' ')).length
    let c := c.skip (match indent with
      | some n => min spaces (n - c.column)
      | none => spaces)
    let widest := max widest c.column
    if within c.column && c.sees '\t' then none
    else if c.ahead? isBreak then
      let (lineBreak, c) := c.newline
      blockBreaks indent fuel (breaks ++ lineBreak) widest c
    else some (breaks, widest, c)

/-- The lines of a block scalar: its text without the line breaks at the end, the first of these,
and the others. -/
def blockLines (folded : Bool) (indent : Nat) :
    (fuel : Nat) → (text first more : List Char) → (leadingBlank : Bool) → Cursor →
      Option (List Char × List Char × List Char × Cursor)
  | 0, text, first, more, _, c => some (text, first, more, c)
  | fuel + 1, text, first, more, leadingBlank, c =>
    if c.column = indent ∧ !c.atEnd then
      let blank := c.ahead? isBlank
      let joined :=
        if folded && first == ['\n'] && !leadingBlank && !blank then
          if more.isEmpty then [' '] else []
        else first
      let (line, c) := c.span fun _ => true
      let (lineBreak, c) := c.newline
      match blockBreaks (some indent) (c.ahead.length + 1) [] 0 c with
      | none => none
      | some (breaks, _, c) =>
        blockLines folded indent fuel (text ++ joined ++ more ++ line) lineBreak breaks blank c
    else some (text, first, more, c)

/-- A block scalar after its indicator, below a node that is indented by `parent`. -/
def block? (folded : Bool) (parent : Int) (c : Cursor) : Option (List Char × Cursor) := do
  let (chomping, increment, c) ← blockHeader? c
  let given := increment.map fun n => if 0 ≤ parent then parent.toNat + n else n
  let (breaks, widest, c) ← blockBreaks given (c.ahead.length + 1) [] 0 c
  let indent := given.getD (max widest (max (parent + 1) 1).toNat)
  let (text, first, more, c) ←
    blockLines folded indent (c.ahead.length + 1) [] [] breaks false c
  return (text ++ (if chomping = .strip then [] else first)
    ++ (if chomping = .keep then more else []), c)

end ClusterBackup.Yaml
