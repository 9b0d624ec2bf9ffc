import TableLineage.CommandLine.Path
import TableLineage.Ordered

/-!
# Files

A command sees the files around it through `Files`.  A directory may be there
and not be listed all the same.  A `FileTree` holds files in memory; its paths
are relative to its root, which is also the working directory, and no path leads
out of it.
-/

namespace TableLineage.CommandLine

/-- What a command sees of files, by path. -/
structure Files where
  isDirectory : Path → Bool
  /-- The names of the entries of a directory, or why it cannot be listed. -/
  entryNames : Path → Except String (List Path)
  content? : Path → Option ByteArray

/-- The content of a file that holds UTF-8 text and has a text for its path. -/
def Files.text? (files : Files) (path : String) : Option String :=
  files.content? path >>= String.fromUTF8?

inductive FileNode
  | directory
  | file (content : ByteArray)

/-- The nodes by the names that lead to them; the root is not listed. -/
abbrev FileTree := List (List Path × FileNode)

namespace FileTree

def node? (tree : FileTree) (place : List Path) : Option FileNode :=
  if place = [] then some .directory else Ordered.lookup place tree

def isDirectoryAt (tree : FileTree) (place : List Path) : Bool :=
  match tree.node? place with
  | some .directory => true
  | _ => false

def step (tree : FileTree) (place : List Path) (name : Path) : Option (List Path) :=
  if !tree.isDirectoryAt place then none
  else if name = "" || name = "." then some place
  else if name = ".." then if place = [] then none else some place.dropLast
  else some (place ++ [name])

/-- Where a path leads to; whether something is there is another question. -/
def place? (tree : FileTree) (path : Path) : Option (List Path) :=
  if path = "" || path.root?.isSome then none
  else ((path.bytes.splitOn Path.slash).map Path.mk).foldlM tree.step []

def find? (tree : FileTree) (path : Path) : Option FileNode :=
  tree.place? path >>= tree.node?

def content? (tree : FileTree) (path : Path) : Option ByteArray :=
  match tree.find? path with
  | some (.file content) => some content
  | _ => none

def entryName? (place : List Path) (entry : List Path × FileNode) : Option Path :=
  match entry.1.getLast? with
  | some name => if entry.1.dropLast = place then some name else none
  | none => none

def entryNames (tree : FileTree) (path : Path) : Except String (List Path) :=
  match tree.place? path with
  | some place =>
      if tree.isDirectoryAt place then .ok (tree.filterMap (entryName? place))
      else .error "Not a directory (os error 20)"
  | none => .error "No such file or directory (os error 2)"

def files (tree : FileTree) : Files where
  isDirectory path := (tree.place? path).any tree.isDirectoryAt
  entryNames := tree.entryNames
  content? := tree.content?

/-- Puts a file where a path leads to, if there is a directory for it and none in its place. -/
def write? (tree : FileTree) (path : Path) (content : ByteArray) : Option FileTree := do
  let place ← tree.place? path
  if place = [] || !tree.isDirectoryAt place.dropLast || tree.isDirectoryAt place then none
  else some (Ordered.put tree (place, .file content))

def makeDirectories (tree : FileTree) (names : List String) : FileTree :=
  let place := names.map Path.ofString
  (List.range place.length).foldl
    (fun tree length => Ordered.put tree (place.take (length + 1), .directory)) tree

end FileTree

end TableLineage.CommandLine
