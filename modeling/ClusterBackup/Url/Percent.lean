/-
ClusterBackup.Url.Percent — bytes behind percent signs.

A percent sign and two hexadecimal digits stand for a byte. `encode`
writes the bytes of a text, those of some characters in this way and the
others as they are; `bytes` reads them back, and leaves a percent sign
without two digits behind it as it is.
-/
import ClusterBackup.Text.Utf8
import ClusterBackup.Text.Hex

namespace ClusterBackup.Url.Percent

open Text

/-- A byte behind a percent sign. -/
def escape (b : UInt8) : List Char :=
  ['%', hexDigitUpper (b.toNat / 16), hexDigitUpper (b.toNat % 16)]

/-- A character as it is, or its bytes behind percent signs. -/
def encodeChar (plain : Char → Bool) (c : Char) : List Char :=
  if plain c then [c] else (Utf8.encodeChar c).flatMap escape

/-- The characters with those that are not plain behind percent signs. -/
def encode (plain : Char → Bool) (cs : List Char) : List Char := cs.flatMap (encodeChar plain)

/-- The bytes that the characters stand for. -/
def bytes : List Char → List UInt8
  | '%' :: h :: l :: rest =>
    match hexValue? h, hexValue? l with
    | some h, some l => UInt8.ofNat (h * 16 + l) :: bytes rest
    | _, _ => UInt8.ofNat '%'.toNat :: bytes (h :: l :: rest)
  | c :: rest => Utf8.encodeChar c ++ bytes rest
  | [] => []

/-- The text that the characters stand for, if the bytes are one. -/
def decode? (cs : List Char) : Option (List Char) := Utf8.decode? (bytes cs)

end ClusterBackup.Url.Percent
