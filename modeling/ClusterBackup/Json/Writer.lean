/-
ClusterBackup.Json.Writer — the text of a JSON value.

Compact text: no space between the parts, members in their order. In a
string the quote, the backslash and the control characters are escaped,
the latter by their short names where they have one and by four
hexadecimal digits otherwise; every other character stands for itself.
-/
import ClusterBackup.Json.Number
import ClusterBackup.Text.Hex

namespace ClusterBackup.Json

open Text (hexDigit)

/-- The short escapes: the character written after the backslash, and the one it stands for. -/
def shortEscapes : List (Char × Char) :=
  [('"', '"'), ('\\', '\\'), ('b', Char.ofNat 8), ('f', Char.ofNat 12), ('n', '\n'), ('r', '\r'),
    ('t', '\t')]

/-- A character of a string as it is written. -/
def escapeChar (c : Char) : List Char :=
  match shortEscapes.find? (·.2 == c) with
  | some (name, _) => ['\\', name]
  | none =>
    if c.toNat < 0x20 then
      ['\\', 'u', '0', '0', hexDigit (c.toNat / 16), hexDigit (c.toNat % 16)]
    else [c]

/-- A string with its quotes. -/
def quote (s : String) : List Char := '"' :: (s.toList.flatMap escapeChar ++ ['"'])

mutual

/-- The characters of a value. -/
def chars : Json → List Char
  | .null => ['n', 'u', 'l', 'l']
  | .bool true => ['t', 'r', 'u', 'e']
  | .bool false => ['f', 'a', 'l', 's', 'e']
  | .number n => n.text.toList
  | .string s => quote s
  | .array items => '[' :: itemChars items
  | .object members => Char.ofNat 0x7B :: memberChars members

/-- The items of an array and the bracket after them. -/
def itemChars : List Json → List Char
  | [] => [']']
  | [v] => chars v ++ [']']
  | v :: vs => chars v ++ ',' :: itemChars vs

/-- The members of an object and the brace after them. -/
def memberChars : List (String × Json) → List Char
  | [] => [Char.ofNat 0x7D]
  | [(k, v)] => quote k ++ ':' :: (chars v ++ [Char.ofNat 0x7D])
  | (k, v) :: ms => quote k ++ ':' :: (chars v ++ ',' :: memberChars ms)

end

/-- The compact text of a value. -/
def write (v : Json) : String := String.ofList v.chars

end ClusterBackup.Json
