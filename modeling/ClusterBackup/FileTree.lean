/-
ClusterBackup.FileTree — directories and files, and the paths that lead to them.

A directory has its entries in the order of their names. A `FileSystem` is
a directory that everything lies in, and the place in it where relative
paths start. Paths are followed part by part: an empty part and a dot stay
where they are, two dots go up, and every part but the last has to lead to
a directory.
-/
import ClusterBackup.Table
import ClusterBackup.Error
import ClusterBackup.Text.Split

namespace ClusterBackup

/-- A file with its text, or a directory with its entries. -/
inductive FileTree where
  | file (text : String)
  | directory (entries : List (String × FileTree))
deriving Repr, Inhabited

namespace FileTree

def isDirectory : FileTree → Bool
  | directory _ => true
  | file _ => false

/-- The entries of a directory; a file has none. -/
def entries : FileTree → List (String × FileTree)
  | directory entries => entries
  | file _ => []

/-- What lies at the end of a path of names. -/
def at? (t : FileTree) : List String → Option FileTree
  | [] => some t
  | name :: names => (t.entries.lookup name).bind (·.at? names)

/-- Puts a file or a directory at the end of a path of names, and directories on the way to it. A
directory that is there already stays. -/
def put : FileTree → List String → FileTree → FileTree
  | t, [], leaf => if t.isDirectory && leaf.isDirectory then t else leaf
  | t, name :: names, leaf =>
    let inside := (t.entries.lookup name).getD (directory [])
    directory (Table.insert name (inside.put names leaf) t.entries)

/-- The place of an entry: the names from it up to the root. -/
abbrev Place := List String

mutual

/-- Everything below a tree at a place, each directory before what it holds, in the order of the
names. -/
def descendants (place : Place) : FileTree → List (Place × FileTree)
  | file _ => []
  | directory entries => entryDescendants place entries

/-- The entries at a place, each with everything below it. -/
def entryDescendants (place : Place) : List (String × FileTree) → List (Place × FileTree)
  | [] => []
  | (name, t) :: rest =>
    (name :: place, t) :: (descendants (name :: place) t ++ entryDescendants place rest)

end

end FileTree

/-! ## Paths -/

/-- Why a path leads nowhere. -/
inductive PathFault where
  | missing
  | notDirectory
  | isDirectory
  | nameTooLong
  | nulCharacter
deriving DecidableEq, Repr

/-- The words for the fault. -/
def PathFault.message : PathFault → String
  | missing => "No such file or directory (os error 2)"
  | notDirectory => "Not a directory (os error 20)"
  | isDirectory => "Is a directory (os error 21)"
  | nameTooLong => "File name too long (os error 36)"
  | nulCharacter => "file name contained an unexpected NUL byte"

/-- Everything, and where relative paths start. -/
structure FileSystem where
  root : FileTree
  working : FileTree.Place
deriving Repr

namespace FileSystem

/-- A file system with nothing in it. -/
def empty : FileSystem := ⟨.directory [], []⟩

/-- What lies at a place. -/
def at? (fs : FileSystem) (place : FileTree.Place) : Option FileTree := fs.root.at? place.reverse

/-- The place is a directory. -/
def isDirectory (fs : FileSystem) (place : FileTree.Place) : Bool :=
  match fs.at? place with
  | some t => t.isDirectory
  | none => false

/-- The bytes of the longest name. -/
def maxNameSize : Nat := 255

/-- The bytes of the longest path. -/
def maxPathSize : Nat := 4095

/-- Follows the parts of a path from a place on. -/
def follow (fs : FileSystem) (place : FileTree.Place) :
    List String → Except PathFault FileTree.Place
  | [] => .ok place
  | part :: parts =>
    if !fs.isDirectory place then .error .notDirectory
    else if part = "" ∨ part = "." then fs.follow place parts
    else if part = ".." then fs.follow (place.drop 1) parts
    else if maxNameSize < part.utf8ByteSize then .error .nameTooLong
    else if (fs.at? (part :: place)).isSome then fs.follow (part :: place) parts
    else .error .missing

/-- The parts of a path. -/
def parts (path : String) : List String :=
  (Text.splitWhere (· == '/') path.toList).map String.ofList

/-- The place that a path leads to. -/
def place? (fs : FileSystem) (path : String) : Except PathFault FileTree.Place :=
  if path = "" then .error .missing
  else if maxPathSize < path.utf8ByteSize then .error .nameTooLong
  else
    match parts path with
    | "" :: parts => fs.follow [] parts
    | parts => fs.follow fs.working parts

/-- The text of the file that a path leads to. -/
def text? (fs : FileSystem) (path : String) : Except PathFault String :=
  if path.toList.contains (Char.ofNat 0) then .error .nulCharacter
  else
    match fs.place? path with
    | .error fault => .error fault
    | .ok place =>
      match fs.at? place with
      | some (.file text) => .ok text
      | some (.directory _) => .error .isDirectory
      | none => .error .missing

end FileSystem

end ClusterBackup
