/-
ClusterBackup.Json.Draft — what a text offers a reader, as far as it is JSON.

Reading goes in two steps. `Draft.scan` finds the structure of a text: it
accepts any nesting, leaves numbers beyond every double and strings with a
lone half of a surrogate pair open, and where the text stops being JSON it
leaves a `broken` part or an unclosed array or object. A reader then walks
the draft in the order of the text and meets what is wrong with it at the
place where it stands. So a reader that skips a part does not see what is
wrong inside a well-formed value, and one that finds a value of the wrong
kind first says so before the text breaks off further on.
-/
import ClusterBackup.Json.Number
import ClusterBackup.Text.Hex

namespace ClusterBackup.Json

open Text (hexValue?)

/-- The structure of a text up to the place where it stops being JSON. -/
inductive Draft where
  /-- The text breaks off or goes wrong here. -/
  | broken
  | null
  | bool (b : Bool)
  /-- A number; none where it is beyond every double. -/
  | number (n : Option Number)
  /-- A string; none where it holds half of a surrogate pair alone. -/
  | string (s : Option String)
  | array (items : List Draft) (closed : Bool)
  | object (members : List (Option String × Draft)) (closed : Bool)
deriving Repr, Inhabited

/-! ## Blanks and words -/

/-- The white space of JSON. -/
def isBlankChar (c : Char) : Bool := c == ' ' || c == '\t' || c == '\n' || c == '\r'

/-- The characters from the first that is no white space on. -/
def skipBlanks (cs : List Char) : List Char := cs.dropWhile isBlankChar

/-- The characters after a word, if they start with it. -/
def dropWord? : List Char → List Char → Option (List Char)
  | [], cs => some cs
  | w :: ws, c :: cs => if w = c then dropWord? ws cs else none
  | _ :: _, [] => none

/-! ## Strings -/

/-- The number that four hexadecimal digits write. -/
def hex4? (a b c d : Char) : Option Nat := do
  return ((← hexValue? a) * 16 + (← hexValue? b)) * 256 + (← hexValue? c) * 16 + (← hexValue? d)

/-- The character that an escape of one character stands for. -/
def escaped? (c : Char) : Option Char :=
  match c with
  | '"' => some '"'
  | '\\' => some '\\'
  | '/' => some '/'
  | 'b' => some (Char.ofNat 8)
  | 'f' => some (Char.ofNat 12)
  | 'n' => some '\n'
  | 'r' => some '\r'
  | 't' => some '\t'
  | _ => none

/-- The part of a string read so far: its characters in reverse, unless a half of a surrogate pair
was lost among them, and the first half of a pair that waits for its second. -/
structure Partial where
  chars : Option (List Char)
  high : Option Nat

namespace Partial

def empty : Partial := ⟨some [], none⟩

/-- A character follows. A half that waited for its partner is lost. -/
def push (p : Partial) (c : Char) : Partial :=
  ⟨if p.high.isSome then none else p.chars.map (c :: ·), none⟩

/-- A 16-bit unit follows: half of a surrogate pair, or a character. -/
def pushUnit (p : Partial) (n : Nat) : Partial :=
  if 0xDC00 ≤ n ∧ n ≤ 0xDFFF then
    match p.high with
    | some h =>
      ⟨p.chars.map (Char.ofNat (0x10000 + (h - 0xD800) * 0x400 + (n - 0xDC00)) :: ·), none⟩
    | none => ⟨none, none⟩
  else if 0xD800 ≤ n ∧ n ≤ 0xDBFF then
    ⟨if p.high.isSome then none else p.chars, some n⟩
  else p.push (Char.ofNat n)

/-- The string, unless a half of a pair was lost. -/
def text? (p : Partial) : Option String :=
  if p.high.isSome then none else p.chars.map fun cs => String.ofList cs.reverse

end Partial

/-- The rest of a string after its opening quote: its text, and the characters after the closing
quote. None where the string is not closed or holds a control character or an unknown escape. -/
def scanString? : List Char → Partial → Option (Option String × List Char)
  | [], _ => none
  | '"' :: rest, p => some (p.text?, rest)
  | '\\' :: 'u' :: a :: b :: c :: d :: rest, p =>
    match hex4? a b c d with
    | some n => scanString? rest (p.pushUnit n)
    | none => none
  | '\\' :: c :: rest, p =>
    match escaped? c with
    | some x => scanString? rest (p.push x)
    | none => none
  | c :: rest, p =>
    if c.toNat < 0x20 ∨ c = '\\' then none else scanString? rest (p.push c)

/-! ## Values -/

namespace Draft

mutual

/-- A value at the front of the characters, and the characters after it unless the text broke. -/
def scanValue : Nat → List Char → Draft × Option (List Char)
  | 0, _ => (broken, none)
  | fuel + 1, cs =>
    match skipBlanks cs with
    | [] => (broken, none)
    | c :: rest =>
      if c = '"' then
        match scanString? rest .empty with
        | some (s, rest) => (string s, some rest)
        | none => (broken, none)
      else if c = '[' then
        let (items, rest) := scanItems fuel rest
        (array items rest.isSome, rest)
      else if c = Char.ofNat 0x7B then
        let (members, rest) := scanMembers fuel rest
        (object members rest.isSome, rest)
      else if c = '-' ∨ c.isDigit then
        match Literal.scan? (c :: rest) with
        | some (l, rest) => (number l.value?, some rest)
        | none => (broken, none)
      else
        match dropWord? ['n', 'u', 'l', 'l'] (c :: rest),
            dropWord? ['t', 'r', 'u', 'e'] (c :: rest),
            dropWord? ['f', 'a', 'l', 's', 'e'] (c :: rest) with
        | some rest, _, _ => (null, some rest)
        | none, some rest, _ => (bool true, some rest)
        | none, none, some rest => (bool false, some rest)
        | none, none, none => (broken, none)

/-- The items of an array after its opening bracket. -/
def scanItems : Nat → List Char → List Draft × Option (List Char)
  | 0, _ => ([], none)
  | fuel + 1, cs =>
    match skipBlanks cs with
    | ']' :: rest => ([], some rest)
    | cs => scanMoreItems fuel cs

/-- At least one item, and the items after it. -/
def scanMoreItems : Nat → List Char → List Draft × Option (List Char)
  | 0, _ => ([], none)
  | fuel + 1, cs =>
    let (v, rest) := scanValue fuel cs
    match rest.map skipBlanks with
    | some (',' :: rest) =>
      let (vs, rest) := scanMoreItems fuel rest
      (v :: vs, rest)
    | some (']' :: rest) => ([v], some rest)
    | _ => ([v], none)

/-- The members of an object after its opening brace. -/
def scanMembers : Nat → List Char → List (Option String × Draft) × Option (List Char)
  | 0, _ => ([], none)
  | fuel + 1, cs =>
    match skipBlanks cs with
    | c :: rest => if c = Char.ofNat 0x7D then ([], some rest) else scanMoreMembers fuel (c :: rest)
    | [] => ([], none)

/-- At least one member, and the members after it. -/
def scanMoreMembers : Nat → List Char → List (Option String × Draft) × Option (List Char)
  | 0, _ => ([], none)
  | fuel + 1, cs =>
    match skipBlanks cs with
    | '"' :: rest =>
      match scanString? rest .empty with
      | none => ([], none)
      | some (name, rest) =>
        match skipBlanks rest with
        | ':' :: rest =>
          let (v, rest) := scanValue fuel rest
          match rest.map skipBlanks with
          | some (',' :: rest) =>
            let (ms, rest) := scanMoreMembers fuel rest
            ((name, v) :: ms, rest)
          | some (c :: rest) =>
            ([(name, v)], if c = Char.ofNat 0x7D then some rest else none)
          | _ => ([(name, v)], none)
        | _ => ([(name, broken)], none)
    | _ => ([], none)

end

/-- The draft of the value at the front of a text, and what follows it. -/
def scan (s : String) : Draft × Option (List Char) :=
  let cs := s.toList
  scanValue (2 * cs.length + 2) cs

/-- The draft of a text that holds nothing but one value. -/
def ofText? (s : String) : Option Draft :=
  match scan s with
  | (d, some rest) => if (skipBlanks rest).isEmpty then some d else none
  | (_, none) => none

end Draft

end ClusterBackup.Json
