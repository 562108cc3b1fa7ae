/-
ClusterBackup.Yaml.Cursor — a place in a text of lines.

A cursor holds the characters ahead and knows the line and the column it
stands in. Besides the two usual line breaks there are three of Unicode;
two of them are text of their own, and all others count as a line feed.
-/

namespace ClusterBackup.Yaml

/-- A place in a text. -/
structure Cursor where
  ahead : List Char
  /-- Characters passed. -/
  index : Nat := 0
  line : Nat := 0
  column : Nat := 0

/-- Space and tab. -/
def isBlank (c : Char) : Bool := c == ' ' || c == '\t'

/-- Characters that end a line. -/
def isBreak (c : Char) : Bool :=
  c == '\n' || c == '\r' || c.toNat == 0x85 || c.toNat == 0x2028 || c.toNat == 0x2029

/-- Letters, digits and the two signs that names are made of. -/
def isWordChar (c : Char) : Bool := c.isAlphanum || c == '_' || c == '-'

/-- Characters that a text may hold. -/
def isAllowed (c : Char) : Bool :=
  let n := c.toNat
  n == 0x09 || n == 0x0A || n == 0x0D || (0x20 ≤ n && n ≤ 0x7E) || n == 0x85
    || (0xA0 ≤ n && n ≤ 0xFFFD) || 0x10000 ≤ n

namespace Cursor

/-- The character some places ahead. -/
def peek? (c : Cursor) (n : Nat) : Option Char := c.ahead[n]?

def atEnd (c : Cursor) : Bool := c.ahead.isEmpty

/-- The character ahead has the property. -/
def ahead? (c : Cursor) (p : Char → Bool) (n : Nat := 0) : Bool :=
  match c.peek? n with
  | some d => p d
  | none => false

/-- A given character is ahead. -/
def sees (c : Cursor) (d : Char) (n : Nat := 0) : Bool := c.ahead? (· == d) n

/-- A blank, a line break or the end is ahead. -/
def endsWord (c : Cursor) (n : Nat := 0) : Bool :=
  match c.peek? n with
  | some d => isBlank d || isBreak d
  | none => true

/-- A line break or the end is ahead. -/
def endsLine (c : Cursor) : Bool := c.atEnd || c.ahead? isBreak

/-- Passes characters of the line. -/
def skip (c : Cursor) (n : Nat := 1) : Cursor :=
  let n := min n c.ahead.length
  { c with ahead := c.ahead.drop n, index := c.index + n, column := c.column + n }

/-- The characters of the line that have the property, and the place behind them. -/
def span (c : Cursor) (p : Char → Bool) : List Char × Cursor :=
  let word := c.ahead.takeWhile fun d => p d && !isBreak d
  (word, c.skip word.length)

/-- The place behind the characters of the line that have the property. -/
def skipWhile (c : Cursor) (p : Char → Bool) : Cursor := (c.span p).2

/-- The place behind a comment, if one is ahead. -/
def skipComment (c : Cursor) : Cursor :=
  if c.sees '#' then c.skipWhile fun _ => true else c

/-- The text of the line break ahead, and the start of the next line. -/
def newline (c : Cursor) : List Char × Cursor :=
  let next (n : Nat) : Cursor :=
    { ahead := c.ahead.drop n, index := c.index + n, line := c.line + 1, column := 0 }
  match c.ahead with
  | '\r' :: '\n' :: _ => (['\n'], next 2)
  | d :: _ =>
    if d.toNat == 0x2028 || d.toNat == 0x2029 then ([d], next 1)
    else if isBreak d then (['\n'], next 1)
    else ([], c)
  | [] => ([], c)

/-- The start or the end of a document is marked here. -/
def seesMark (c : Cursor) (sign : Char) : Bool :=
  c.column == 0 && c.sees sign && c.sees sign 1 && c.sees sign 2 && c.endsWord 3

end Cursor

end ClusterBackup.Yaml
