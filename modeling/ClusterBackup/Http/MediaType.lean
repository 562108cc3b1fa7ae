/-
ClusterBackup.Http.MediaType — what a body is said to be.

A media type is a type and a subtype, and the subtype may end in a suffix
after a plus sign. Parameters may follow; they have to be well formed and
mean nothing here. `isJson` holds of the type `application` with the
subtype or the suffix `json`; letter case does not matter.
-/

namespace ClusterBackup.Http

/-- A media type without its parameters. -/
structure MediaType where
  type : String
  subtype : String
  suffix : Option String
deriving DecidableEq, Repr

namespace MediaType

/-- Characters of words. -/
def isTokenChar (c : Char) : Bool :=
  c.isAlphanum
    || ['!', '#', '$', '%', '&', '\'', '+', '-', '.', '^', '_', Char.ofNat 0x60, '|',
      '~'].contains c

/-- Characters between quotes. -/
def isQuotedChar (c : Char) : Bool := 0x1F < c.toNat && c.toNat != 0x7F && c != '"'

/-- A word at the front of the characters, and the characters after it. -/
def word (cs : List Char) : List Char × List Char :=
  (cs.takeWhile isTokenChar, cs.dropWhile isTokenChar)

/-- The characters after the value of a parameter; none if it is not well formed. -/
def skipValue? : List Char → Option (List Char)
  | '"' :: cs =>
    match cs.dropWhile isQuotedChar with
    | '"' :: rest =>
      if (cs.takeWhile isQuotedChar).isEmpty then none else some (rest.dropWhile (· == ' '))
    | _ => none
  | cs => some (word cs).2

/-- The parameters are well formed. A parameter takes at least two characters, so fuel as long as
the text is enough. -/
def hasParameters : (fuel : Nat) → List Char → Bool
  | 0, _ => false
  | fuel + 1, cs =>
    let cs := cs.dropWhile (· == ' ')
    if cs.isEmpty then true
    else
      let (name, rest) := word cs
      match rest with
      | '=' :: rest =>
        !name.isEmpty && (match skipValue? rest with
          | some (';' :: rest) => hasParameters fuel rest
          | some [] => true
          | _ => false)
      | _ => false

/-- The media type that a text names. -/
def parse? (s : String) : Option MediaType :=
  let (type, rest) := word s.toList
  match rest with
  | '/' :: rest =>
    let (name, params) := word rest
    let paramsFine := match params with
      | [] => true
      | c :: rest => (c == ';' || c == ' ') && hasParameters (rest.length + 1) rest
    if type.isEmpty || name.isEmpty || !paramsFine then none
    else
      let suffix := (name.reverse.takeWhile (· != '+')).reverse
      if suffix.length + 1 < name.length then
        some ⟨String.ofList type, String.ofList (name.take (name.length - suffix.length - 1)),
          some (String.ofList suffix)⟩
      else some ⟨String.ofList type, String.ofList name, none⟩
  | _ => none

/-- The word in lower case. -/
def lower (s : String) : String := String.ofList (s.toList.map Char.toLower)

/-- Whether a body of the type is JSON. -/
def isJson (m : MediaType) : Bool :=
  lower m.type == "application" && (lower m.subtype == "json" || m.suffix.map lower == some "json")

end MediaType

end ClusterBackup.Http
