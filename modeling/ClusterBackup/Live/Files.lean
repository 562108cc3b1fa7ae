/-
ClusterBackup.Live.Files — what the disk holds.

Commands and clients work on a `FileSystem`, of which they look at one
path or at one pattern. Here that part of the disk is read: the entries on
the way, and at its end a file, or directories as far down as the pattern
can reach.
-/
import ClusterBackup.Snapshot.Directory

namespace ClusterBackup.Live

/-- The path leads to something. -/
def isThere (path : String) : IO Bool := do
  ((← IO.currentDir) / path).pathExists

/-- The path leads to a directory. -/
def isDirectory (path : String) : IO Bool := do
  ((← IO.currentDir) / path).isDir

/-- The names in a directory; none if it cannot be read. -/
def namesIn (path : String) : IO (List String) := do
  try
    let entries ← ((← IO.currentDir) / path).readDir
    return entries.toList.map (·.fileName)
  catch _ => return []

/-- The path of an entry. -/
def entryPath (path name : String) : String := path ++ "/" ++ name

/-- A directory down to a depth, or a file without its text. -/
def readTree : (depth : Nat) → (path : String) → IO FileTree
  | 0, path => return if ← isDirectory path then .directory [] else .file ""
  | depth + 1, path => do
    if ← isDirectory path then
      let mut entries : Table FileTree := []
      for name in ← namesIn path do
        entries := Table.insert name (← readTree depth (entryPath path name)) entries
      return .directory entries
    else return .file ""

/-- The entries on a way, from the working directory or from the root, with what is read at its
end. -/
def readAlong (parts : List String) (read : (path : String) → IO FileTree) : IO FileSystem := do
  let here := (FileSystem.parts (← IO.currentDir).toString).filter (· != "")
  let mut root := FileTree.put (.directory []) here (.directory [])
  let absolute := parts.head? == some ""
  let mut path := if absolute then "" else "/" ++ "/".intercalate here
  let mut place := if absolute then [] else here
  for part in parts do
    path := entryPath path part
    unless ← isThere path do return ⟨root, here.reverse⟩
    place := if part = "" ∨ part = "." then place
      else if part = ".." then place.dropLast
      else place ++ [part]
    root := root.put place (if ← isDirectory path then .directory [] else .file "")
  let found ← read path
  for (below, t) in (place.reverse, found) :: found.descendants place.reverse do
    root := root.put below.reverse (if t.isDirectory then .directory [] else t)
  return ⟨root, here.reverse⟩

/-- The file system with the text of one file. -/
def withText (path : String) : IO FileSystem :=
  readAlong (FileSystem.parts path) fun path => do
    if ← isDirectory path then return .directory []
    else return .file (← IO.FS.readFile path)

/-- How deep a pattern without an end is followed. -/
def maxDepth : Nat := 64

/-- The file system with everything that backups at a location can be found by. -/
def withBackups (location : String) : IO FileSystem := do
  let isWild (part : String) : Bool := part.toList.any fun c => c == '*' || c == '?' || c == '['
  let parts := FileSystem.parts (Snapshot.patternAt location)
  let wild := parts.dropWhile (!isWild ·)
  let depth := if wild.contains "**" then maxDepth else wild.length
  readAlong (parts.takeWhile (!isWild ·)) (readTree depth)

end ClusterBackup.Live
