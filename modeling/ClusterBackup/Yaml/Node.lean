/-
ClusterBackup.Yaml.Node — the value that a document holds.

A document holds one node: a scalar, a sequence or a mapping, with its
tags resolved. An alias of a scalar is that scalar; an alias of anything
else is kept as a reference, and one without an anchor before it is
refused. A text may hold one document at most, and nothing at all is no
document.
-/
import ClusterBackup.Yaml.Token

namespace ClusterBackup.Yaml

/-- A value. -/
inductive Node where
  | scalar (tag : Option String) (text : String) (style : Style)
  | sequence (items : List Node)
  | mapping (members : List (Node × Node))
  /-- A sequence or a mapping that stands somewhere before. -/
  | reference
deriving Repr, Inhabited

namespace Node

/-- The scalar where there is none. -/
def empty : Node := scalar none "" .plain

/-- What aliases of a node stand for. -/
def aliased : Node → Node
  | scalar tag text style => scalar tag text style
  | _ => reference

end Node

/-! ## Reading tokens -/

/-- The state of reading: the tokens ahead, and the anchors so far, the latest first. -/
structure Reading where
  tokens : List Token
  anchors : List (String × Node) := []
  shorthands : List (String × String) := [("!", "!"), ("!!", "tag:yaml.org,2002:")]

namespace Reading

/-- The token ahead. The end of the stream is always the last one. -/
def peek (r : Reading) : Token := r.tokens.headD .streamEnd

def skip (r : Reading) : Reading := { r with tokens := r.tokens.drop 1 }

/-- Gives a node a name. -/
def name (r : Reading) (anchor : Option String) (n : Node) : Reading :=
  match anchor with
  | some a => { r with anchors := (a, n.aliased) :: r.anchors }
  | none => r

/-- The full tag of a handle and a suffix. -/
def resolve? (r : Reading) (handle suffix : String) : Option String :=
  if handle = "" then some suffix else (r.shorthands.lookup handle).map (· ++ suffix)

/-- Anchor and tag of a node, in either order. -/
def properties? (r : Reading) : Option (Option String × Option String × Reading) :=
  match r.peek with
  | .anchor a =>
    match r.skip.peek with
    | .tag handle suffix => do return (some a, some (← r.resolve? handle suffix), r.skip.skip)
    | _ => some (some a, none, r.skip)
  | .tag handle suffix => do
    let tag ← r.resolve? handle suffix
    match r.skip.peek with
    | .anchor a => return (some a, some tag, r.skip.skip)
    | _ => return (none, some tag, r.skip)
  | _ => some (none, none, r)

end Reading

/-! ## Nodes

Each reader takes fuel, of which a step from a node to a part of it takes one. There are no more
steps than tokens. -/

mutual

/-- A node. Blocks may start here only where `block` says so, and a sequence without indentation
only where `indentless` does. -/
def Node.read? : (fuel : Nat) → (block indentless : Bool) → Reading → Option (Node × Reading)
  | 0, _, _, _ => none
  | fuel + 1, block, indentless, r =>
    match r.peek with
    | .alias a => (r.anchors.lookup a).map (·, r.skip)
    | _ => do
      let (anchor, tag, r) ← r.properties?
      let opened := r.name anchor .reference
      match r.peek with
      | .scalar text style =>
        -- An empty tag counts as none.
        let n := Node.scalar (tag.filter (· != "")) text style
        return (n, r.skip.name anchor n)
      | .flowSequence => Node.readFlowItems? fuel true opened.skip []
      | .flowMapping => Node.readFlowMembers? fuel true opened.skip []
      | .blockEntry =>
        if indentless then Node.readIndentless? fuel opened [] else Node.bare? anchor tag r
      | .blockSequence =>
        if block then Node.readBlockItems? fuel opened.skip [] else Node.bare? anchor tag r
      | .blockMapping =>
        if block then Node.readBlockMembers? fuel opened.skip [] else Node.bare? anchor tag r
      | _ => Node.bare? anchor tag r

/-- A node of which there is nothing but its properties. -/
def Node.bare? (anchor tag : Option String) (r : Reading) : Option (Node × Reading) :=
  if anchor.isSome || tag.isSome then
    let n := Node.scalar (tag.filter (· != "")) "" .plain
    some (n, r.name anchor n)
  else none

/-- The items of a sequence in a block. -/
def Node.readBlockItems? : (fuel : Nat) → Reading → List Node → Option (Node × Reading)
  | 0, _, _ => none
  | fuel + 1, r, items =>
    match r.peek with
    | .blockEntry => do
      let r := r.skip
      match r.peek with
      | .blockEntry | .blockEnd => Node.readBlockItems? fuel r (Node.empty :: items)
      | _ =>
        let (n, r) ← Node.read? fuel true false r
        Node.readBlockItems? fuel r (n :: items)
    | .blockEnd => some (.sequence items.reverse, r.skip)
    | _ => none

/-- The items of a sequence at the indentation of the mapping around it. -/
def Node.readIndentless? : (fuel : Nat) → Reading → List Node → Option (Node × Reading)
  | 0, _, _ => none
  | fuel + 1, r, items =>
    match r.peek with
    | .blockEntry => do
      let r := r.skip
      match r.peek with
      | .blockEntry | .key | .value | .blockEnd =>
        Node.readIndentless? fuel r (Node.empty :: items)
      | _ =>
        let (n, r) ← Node.read? fuel true false r
        Node.readIndentless? fuel r (n :: items)
    | _ => some (.sequence items.reverse, r)

/-- A key or a value in a block, which may be left out. -/
def Node.readBlockPart? : (fuel : Nat) → Reading → Option (Node × Reading)
  | 0, _ => none
  | fuel + 1, r =>
    match r.peek with
    | .key | .value | .blockEnd => some (Node.empty, r)
    | _ => Node.read? fuel true true r

/-- The members of a mapping in a block. -/
def Node.readBlockMembers? :
    (fuel : Nat) → Reading → List (Node × Node) → Option (Node × Reading)
  | 0, _, _ => none
  | fuel + 1, r, members =>
    match r.peek with
    | .key => do
      let (k, r) ← Node.readBlockPart? fuel r.skip
      match r.peek with
      | .value =>
        let (v, r) ← Node.readBlockPart? fuel r.skip
        Node.readBlockMembers? fuel r ((k, v) :: members)
      | _ => Node.readBlockMembers? fuel r ((k, Node.empty) :: members)
    | .blockEnd => some (.mapping members.reverse, r.skip)
    | _ => none

/-- The items of a sequence in brackets. An item may be a single member of a mapping. -/
def Node.readFlowItems? :
    (fuel : Nat) → (first : Bool) → Reading → List Node → Option (Node × Reading)
  | 0, _, _, _ => none
  | fuel + 1, first, r, items =>
    match r.peek with
    | .flowSequenceEnd => some (.sequence items.reverse, r.skip)
    | t => do
      let r ← if first then some r else if t = .flowEntry then some r.skip else none
      match r.peek with
      | .flowSequenceEnd => return (.sequence items.reverse, r.skip)
      | .key =>
        let (k, r) ← Node.readPairKey? fuel r.skip
        let (v, r) ←
          if r.peek = .value then Node.readFlowValue? fuel .flowSequenceEnd r.skip
          else some (Node.empty, r)
        Node.readFlowItems? fuel false r (.mapping [(k, v)] :: items)
      | _ =>
        let (n, r) ← Node.read? fuel false false r
        Node.readFlowItems? fuel false r (n :: items)

/-- The key of a single member. Where it is left out, the token in its place is passed. -/
def Node.readPairKey? : (fuel : Nat) → Reading → Option (Node × Reading)
  | 0, _ => none
  | fuel + 1, r =>
    match r.peek with
    | .value | .flowEntry | .flowSequenceEnd => some (Node.empty, r.skip)
    | _ => Node.read? fuel false false r

/-- A value in brackets, which may be left out. -/
def Node.readFlowValue? : (fuel : Nat) → (close : Token) → Reading → Option (Node × Reading)
  | 0, _, _ => none
  | fuel + 1, close, r =>
    if r.peek = .flowEntry ∨ r.peek = close then some (Node.empty, r)
    else Node.read? fuel false false r

/-- The members of a mapping in braces. -/
def Node.readFlowMembers? :
    (fuel : Nat) → (first : Bool) → Reading → List (Node × Node) → Option (Node × Reading)
  | 0, _, _, _ => none
  | fuel + 1, first, r, members =>
    match r.peek with
    | .flowMappingEnd => some (.mapping members.reverse, r.skip)
    | t => do
      let r ← if first then some r else if t = .flowEntry then some r.skip else none
      match r.peek with
      | .flowMappingEnd => return (.mapping members.reverse, r.skip)
      | .key =>
        let r := r.skip
        let (k, r) ←
          if r.peek = .value then some (Node.empty, r)
          else Node.readFlowValue? fuel .flowMappingEnd r
        let (v, r) ←
          if r.peek = .value then Node.readFlowValue? fuel .flowMappingEnd r.skip
          else some (Node.empty, r)
        Node.readFlowMembers? fuel false r ((k, v) :: members)
      | _ =>
        let (k, r) ← Node.read? fuel false false r
        Node.readFlowMembers? fuel false r ((k, Node.empty) :: members)

end

/-! ## Documents -/

namespace Reading

/-- Takes the directives of a document. -/
def directives? : (fuel : Nat) → (versioned : Bool) → (given : List String) → Reading →
    Option Reading
  | 0, _, _, _ => none
  | fuel + 1, versioned, given, r =>
    match r.peek with
    | .version major minor =>
      if versioned || major != 1 || (minor != 1 && minor != 2) then none
      else directives? fuel true given r.skip
    | .tagShorthand handle start =>
      if given.contains handle then none
      else
        let r := r.skip
        directives? fuel versioned (handle :: given)
          { r with shorthands := (handle, start) :: r.shorthands }
    | _ => some r

/-- The node of a document, which may be left out. -/
def content? (fuel : Nat) (r : Reading) : Option (Node × Reading) :=
  match r.peek with
  | .version .. | .tagShorthand .. | .documentStart | .documentEnd | .streamEnd =>
    some (Node.empty, r)
  | _ => Node.read? fuel true false r

/-- Passes the ends of the document. -/
def skipEnds (r : Reading) : Reading :=
  { r with tokens := r.tokens.dropWhile (· == .documentEnd) }

/-- The node of the only document. -/
def document? (fuel : Nat) (r : Reading) : Option Node := do
  let (n, r) ←
    match r.peek with
    | .version .. | .tagShorthand .. | .documentStart => do
      let r ← r.directives? fuel false []
      if r.peek = .documentStart then r.skip.content? fuel else none
    | _ => Node.read? fuel true false r
  if r.skipEnds.peek = .streamEnd then some n else none

end Reading

/-- The value of a text, `some none` where it holds no document. -/
def parse? (s : String) : Option (Option Node) := do
  let tokens ← Token.scan? s
  if tokens = [.streamEnd] then return none
  else return some (← Reading.document? (2 * tokens.length + 2) { tokens })

end ClusterBackup.Yaml
