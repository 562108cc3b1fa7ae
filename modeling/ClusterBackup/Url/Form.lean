/-
ClusterBackup.Url.Form — lists of names and values as the query of a URL.

Pairs are joined by ampersands, a name and its value by an equals sign. In
names and values, letters, digits and four signs stand for themselves, a
plus sign for a space, and every other byte stands behind a percent sign.
Reading is lenient: it skips empty pairs, takes a pair without an equals
sign for a name with an empty value, and replaces bytes that are no text.
-/
import ClusterBackup.Url.Percent
import ClusterBackup.Text.Split

namespace ClusterBackup.Url.Form

open Text

/-- Characters that stand for themselves. -/
def isPlain (c : Char) : Bool :=
  c.isAlphanum || c == '*' || c == '-' || c == '.' || c == '_'

/-! ## Writing -/

/-- A character of a name or a value as it is written. -/
def encodeChar (c : Char) : List Char :=
  if c = ' ' then ['+'] else Percent.encodeChar isPlain c

/-- A name or a value as it is written. -/
def encodeText (s : String) : List Char := s.toList.flatMap encodeChar

/-- A name with its value. -/
def encodePair (p : String × String) : List Char := encodeText p.1 ++ '=' :: encodeText p.2

/-- The pairs in their order. -/
def encode : List (String × String) → List Char
  | [] => []
  | [p] => encodePair p
  | p :: ps => encodePair p ++ '&' :: encode ps

/-! ## Reading -/

/-- The text that a name or a value writes. -/
def decodeText (cs : List Char) : String :=
  String.ofList (Utf8.decodeLossy (Percent.bytes (cs.map fun c => if c = '+' then ' ' else c)))

/-- The pair that a part writes. -/
def decodePair (cs : List Char) : String × String :=
  let (name, value) := cut '=' cs
  (decodeText name, decodeText value)

/-- The pairs that a query writes, in their order. -/
def decode (cs : List Char) : List (String × String) :=
  ((splitWhere (· == '&') cs).filter (!·.isEmpty)).map decodePair

end ClusterBackup.Url.Form
