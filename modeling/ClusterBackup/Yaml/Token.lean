/-
ClusterBackup.Yaml.Token — what a document is made of.

Scanning turns a text into tokens. Indentation becomes tokens of its own,
for the starts and ends of blocks. A node may turn out to be a key only
when the colon after it comes up, so the place of the latest node that
could be one is remembered, for every pair of brackets that is open; such
a node stands on one line and is not too long. Outside of brackets, a node
at the indentation of an open block has to be a key.
-/
import ClusterBackup.Yaml.Scalar
import ClusterBackup.Text.Utf8

namespace ClusterBackup.Yaml

/-- A token. -/
inductive Token where
  | streamEnd
  | version (major minor : Nat)
  | tagShorthand (handle start : String)
  | documentStart
  | documentEnd
  | blockSequence
  | blockMapping
  | blockEnd
  | flowSequence
  | flowSequenceEnd
  | flowMapping
  | flowMappingEnd
  | blockEntry
  | flowEntry
  | key
  | value
  | alias (name : String)
  | anchor (name : String)
  | tag (handle suffix : String)
  | scalar (text : String) (style : Style)
deriving DecidableEq, Repr

/-- A node that may be a key. -/
structure KeyPlace where
  /-- The number of its token. -/
  token : Nat
  /-- It has to be a key. -/
  required : Bool
  index : Nat
  line : Nat
  column : Nat

/-- The longest key that has no mark of its own. -/
def maxKeyLength : Nat := 1024

/-- The state of a scan. -/
structure Scan where
  cursor : Cursor
  tokens : Array Token := #[]
  /-- Open brackets, each with the node before it that may be a key. -/
  brackets : List (Option KeyPlace) := []
  keyPlace : Option KeyPlace := none
  /-- A key without a mark of its own may start here. -/
  keyAllowed : Bool := true
  indent : Int := -1
  /-- The indentations around this one. -/
  outer : List Int := []

namespace Scan

def inFlow (s : Scan) : Bool := !s.brackets.isEmpty

def push (s : Scan) (t : Token) : Scan := { s with tokens := s.tokens.push t }

/-- Puts a token in front of the one with a number. -/
def insert (s : Scan) (number : Nat) (t : Token) : Scan :=
  { s with tokens := (s.tokens.take number).push t ++ s.tokens.drop number }

/-- Goes on at another place. -/
def moveTo (s : Scan) (c : Cursor) : Scan := { s with cursor := c }

/-! ## Indentation -/

/-- Opens a block at a column, if it is indented by more than the one around it. -/
def openBlock (s : Scan) (column : Nat) (number : Nat) (t : Token) : Scan :=
  if !s.inFlow && s.indent < column then
    { s.insert number t with indent := column, outer := s.indent :: s.outer }
  else s

/-- Closes the blocks that are indented by more than a column. -/
def closeBlocks (column : Int) : (outer : List Int) → Scan → Scan
  | [], s => s
  | i :: outer, s =>
    if column < s.indent then
      closeBlocks column outer { s.push .blockEnd with indent := i, outer }
    else s

/-- Closes the blocks that end before a column; within brackets there are none. -/
def unindent (s : Scan) (column : Int) : Scan :=
  if s.inFlow then s else closeBlocks column s.outer s

/-! ## Keys -/

/-- The place is on this line and near enough. -/
def isNear (s : Scan) (k : KeyPlace) : Bool :=
  k.line == s.cursor.line && s.cursor.index ≤ k.index + maxKeyLength

/-- Gives up a place that is out of reach; a required one may not be given up. -/
def dropFarKey (s : Scan) : Option Scan :=
  match s.keyPlace with
  | some k =>
    if s.isNear k then some s
    else if k.required then none
    else some { s with keyPlace := none }
  | none => some s

/-- Gives up the place. -/
def dropKey (s : Scan) : Option Scan :=
  match s.keyPlace with
  | some k => if k.required then none else some { s with keyPlace := none }
  | none => some s

/-- Remembers the place of the node that starts here. -/
def saveKey (s : Scan) : Option Scan :=
  if s.keyAllowed then do
    let s ← s.dropKey
    let c := s.cursor
    let required := !s.inFlow && s.indent == c.column
    let place : KeyPlace := ⟨s.tokens.size, required, c.index, c.line, c.column⟩
    return { s with keyPlace := some place }
  else some s

/-! ## Between tokens -/

/-- Passes white space, comments and line breaks. -/
def skipSpace : (fuel : Nat) → Scan → Scan
  | 0, s => s
  | fuel + 1, s =>
    let c := s.cursor
    let c := if c.index = 0 ∧ c.sees (Char.ofNat 0xFEFF) then c.skip else c
    let isGap (d : Char) : Bool := d == ' ' || ((s.inFlow || !s.keyAllowed) && d == '\t')
    let c := (c.skipWhile isGap).skipComment
    if c.ahead? isBreak then
      skipSpace fuel { s with cursor := c.newline.2, keyAllowed := s.keyAllowed || !s.inFlow }
    else s.moveTo c

/-! ## Directives -/

/-- A number of at most nine digits. -/
def versionNumber? (c : Cursor) : Option (Nat × Cursor) :=
  let (digits, c) := c.span Char.isDigit
  if digits.isEmpty ∨ 9 < digits.length then none
  else some (digits.foldl (fun n d => n * 10 + (d.toNat - '0'.toNat)) 0, c)

/-- The bytes that escapes in a tag stand for, as text. -/
def unescapeTag? : List Char → Option (List UInt8)
  | '%' :: a :: b :: rest => do
    return UInt8.ofNat ((← Text.hexValue? a) * 16 + (← Text.hexValue? b)) :: (← unescapeTag? rest)
  | '%' :: _ => none
  | c :: rest => do return Text.Utf8.encodeChar c ++ (← unescapeTag? rest)
  | [] => some []

/-- The characters of tags, some of them only in a full one. -/
def isTagChar (full : Bool) (c : Char) : Bool :=
  isWordChar c
    || [';', '/', '?', ':', '@', '&', '=', '+', '$', '.', '!', '~', '*', '\'', '(', ')',
      '%'].contains c
    || (full && [',', '[', ']'].contains c)

/-- The text of a tag after a start that was read already. -/
def tagText? (full : Bool) (start : List Char) (c : Cursor) : Option (String × Cursor) := do
  let (chars, c) := c.span (isTagChar full)
  let text ← Text.Utf8.decode? (← unescapeTag? chars)
  if start.isEmpty && chars.isEmpty then none
  else some (String.ofList (start.drop 1 ++ text), c)

/-- The handle of a tag: an exclamation mark, a word, and perhaps another mark. -/
def tagHandle? (c : Cursor) : Option (List Char × Cursor) :=
  if c.sees '!' then
    let (word, c) := c.skip.span isWordChar
    if c.sees '!' then some ('!' :: (word ++ ['!']), c.skip) else some ('!' :: word, c)
  else none

/-- The handle is one that stands for a longer text. -/
def isShorthand (handle : List Char) : Bool :=
  2 ≤ handle.length && handle.getLast? == some '!'

/-- A directive, from the percent sign to the end of its line. -/
def directive? (c : Cursor) : Option (Token × Cursor) := do
  let (name, c) := c.skip.span isWordChar
  if !c.endsWord then none
  else
    let c := c.skipWhile isBlank
    let (t, c) ←
      if name = ['Y', 'A', 'M', 'L'] then do
        let (major, c) ← versionNumber? c
        if c.sees '.' then
          let (minor, c) ← versionNumber? c.skip
          some (Token.version major minor, c)
        else none
      else if name = ['T', 'A', 'G'] then do
        let (handle, c) ← tagHandle? c
        if (isShorthand handle || handle == ['!']) && c.ahead? isBlank then
          let (start, c) ← tagText? true [] (c.skipWhile isBlank)
          if c.endsWord then some (Token.tagShorthand (String.ofList handle) start, c) else none
        else none
      else none
    let c := (c.skipWhile isBlank).skipComment
    if c.endsLine then some (t, c.newline.2) else none

/-! ## Properties of nodes -/

/-- Characters that may follow the name of an anchor. -/
def endsName (c : Cursor) : Bool :=
  c.endsWord || c.ahead? (['?', ':', ',', ']', '\x7d', '%', '@', Char.ofNat 0x60].contains ·)

/-- The name of an anchor after its sign. -/
def name? (c : Cursor) : Option (String × Cursor) :=
  let (word, c) := c.span isWordChar
  if word.isEmpty || !endsName c then none else some (String.ofList word, c)

/-- A tag. -/
def tag? (inFlow : Bool) (c : Cursor) : Option (Token × Cursor) := do
  let (t, c) ←
    if c.sees '<' 1 then do
      let (text, c) ← tagText? true [] (c.skip 2)
      if c.sees '>' then some (Token.tag "" text, c.skip) else none
    else do
      let (handle, c) ← tagHandle? c
      if isShorthand handle then
        let (suffix, c) ← tagText? false [] c
        some (Token.tag (String.ofList handle) suffix, c)
      else
        let (suffix, c) ← tagText? false handle c
        some (if suffix = "" then Token.tag "" "!" else Token.tag "!" suffix, c)
  if c.endsWord || (inFlow && c.sees ',') then some (t, c) else none

/-! ## One token -/

/-- Takes a mark of a document of three characters. -/
def takeMark (s : Scan) (t : Token) : Option Scan := do
  let s ← (s.unindent (-1)).dropKey
  return { (s.push t).moveTo (s.cursor.skip 3) with keyAllowed := false }

/-- Takes an opening bracket. -/
def openBracket (s : Scan) (t : Token) : Option Scan := do
  let s ← s.saveKey
  return { (s.push t).moveTo s.cursor.skip with
    brackets := s.keyPlace :: s.brackets, keyPlace := none, keyAllowed := true }

/-- Takes a closing bracket. -/
def closeBracket (s : Scan) (t : Token) : Option Scan := do
  let s ← s.dropKey
  let s := { (s.push t).moveTo s.cursor.skip with keyAllowed := false }
  match s.brackets with
  | k :: brackets => return { s with keyPlace := k, brackets }
  | [] => return s

/-- Takes a sign that a new node follows, and that may open a block. -/
def takeIndicator (s : Scan) (block : Token) (t : Token) (keyAllowed : Bool) : Option Scan :=
  if !s.inFlow && !s.keyAllowed then none
  else do
    let s := s.openBlock s.cursor.column s.tokens.size block
    let s ← s.dropKey
    return { (s.push t).moveTo s.cursor.skip with keyAllowed }

/-- Takes a colon: after a node that may be a key, or on its own. -/
def takeValue (s : Scan) : Option Scan :=
  match s.keyPlace with
  | some k =>
    let s := (s.insert k.token .key).openBlock k.column k.token .blockMapping
    some { (s.push .value).moveTo s.cursor.skip with keyPlace := none, keyAllowed := false }
  | none =>
    if !s.inFlow && !s.keyAllowed then none
    else
      let s := s.openBlock s.cursor.column s.tokens.size .blockMapping
      some { (s.push .value).moveTo s.cursor.skip with keyAllowed := !s.inFlow }

/-- Takes a node, or a property of one, that may be a key. -/
def takeNode (s : Scan) (read : Cursor → Option (Token × Cursor)) : Option Scan := do
  let s ← s.saveKey
  let (t, c) ← read s.cursor
  return { (s.push t).moveTo c with keyAllowed := false }

def takeQuoted (s : Scan) (single : Bool) : Option Scan :=
  s.takeNode fun c => do
    let (text, c) ← quoted? single c.skip
    return (.scalar (String.ofList text) .quoted, c)

def takeBlock (s : Scan) (folded : Bool) : Option Scan := do
  let s ← s.dropKey
  let (text, c) ← block? folded s.indent s.cursor.skip
  let style := if folded then .folded else .literal
  return { (s.push (.scalar (String.ofList text) style)).moveTo c with keyAllowed := true }

def takePlain (s : Scan) : Option Scan := do
  let s ← s.saveKey
  let (text, broken, c) ← plain? s.inFlow (s.indent + 1) s.cursor
  return { (s.push (.scalar (String.ofList text) .plain)).moveTo c with keyAllowed := broken }

/-- Characters that no plain scalar starts with, unless the next one makes it plain. -/
def isIndicator (c : Char) : Bool :=
  ['-', '?', ':', ',', '[', ']', '\x7b', '\x7d', '#', '&', '*', '!', '|', '>', '\'', '"', '%', '@',
    Char.ofNat 0x60].contains c

/-- A plain scalar starts here. -/
def startsPlain (s : Scan) (d : Char) : Bool :=
  (!isIndicator d && !isBlank d) || (d == '-' && !s.cursor.ahead? isBlank 1)
    || (!s.inFlow && (d == '?' || d == ':') && !s.cursor.endsWord 1)

/-- Takes the token that starts with a character. -/
def takeToken (s : Scan) (d : Char) : Option Scan :=
  let c := s.cursor
  if c.column = 0 ∧ d = '%' then do
    let s ← (s.unindent (-1)).dropKey
    let (t, c) ← directive? s.cursor
    return { (s.push t).moveTo c with keyAllowed := false }
  else if c.seesMark '-' then s.takeMark .documentStart
  else if c.seesMark '.' then s.takeMark .documentEnd
  else if d = '[' then s.openBracket .flowSequence
  else if d = '\x7b' then s.openBracket .flowMapping
  else if d = ']' then s.closeBracket .flowSequenceEnd
  else if d = '\x7d' then s.closeBracket .flowMappingEnd
  else if d = ',' then do
    let s ← s.dropKey
    return { (s.push .flowEntry).moveTo c.skip with keyAllowed := true }
  else if d = '-' ∧ c.endsWord 1 then s.takeIndicator .blockSequence .blockEntry true
  else if d = '?' ∧ (s.inFlow ∨ c.endsWord 1) then s.takeIndicator .blockMapping .key !s.inFlow
  else if d = ':' ∧ (s.inFlow ∨ c.endsWord 1) then s.takeValue
  else if d = '*' then s.takeNode fun c => (name? c.skip).map fun r => (.alias r.1, r.2)
  else if d = '&' then s.takeNode fun c => (name? c.skip).map fun r => (.anchor r.1, r.2)
  else if d = '!' then s.takeNode (tag? s.inFlow)
  else if d = '|' ∧ !s.inFlow then s.takeBlock false
  else if d = '>' ∧ !s.inFlow then s.takeBlock true
  else if d = '\'' then s.takeQuoted true
  else if d = '"' then s.takeQuoted false
  else if s.startsPlain d then s.takePlain
  else none

/-- Takes tokens up to the end of the text. -/
def takeAll : (fuel : Nat) → Scan → Option Scan
  | 0, _ => none
  | fuel + 1, s => do
    let s ← (skipSpace (s.cursor.ahead.length + 1) s).dropFarKey
    let s := s.unindent s.cursor.column
    match s.cursor.peek? 0 with
    | none => return (← (s.unindent (-1)).dropKey).push .streamEnd
    | some d => takeAll fuel (← s.takeToken d)

end Scan

/-- The tokens of a text. -/
def Token.scan? (s : String) : Option (List Token) :=
  let chars := match s.toList with
    | c :: rest => if c = Char.ofNat 0xFEFF then rest else c :: rest
    | [] => []
  if chars.all isAllowed then
    (Scan.takeAll (chars.length + 1) { cursor := { ahead := chars } }).map fun s => s.tokens.toList
  else none

end ClusterBackup.Yaml
