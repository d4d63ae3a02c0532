import Interview.Files.Path
import Interview.Text.Line

/-!
# File trees

The programs here read files below the current directory only. A `FileTree` is a picture of what is
there: which paths are files, with their texts, and which are directories. It does not tell of files
whose octets are no text, nor of links that lead nowhere. To read one of the first is a fault of its
own kind; one of the others is listed, and missing when it is read.
-/

namespace Interview

/-- What stands at a place of a file tree. -/
inductive FileEntry where
  | file (content : String)
  | directory
deriving DecidableEq, Repr

/-- The files and directories below the current directory, by the names that lead to them. -/
structure FileTree where
  entries : List (List String × FileEntry)
deriving Repr

namespace FileTree

/-- The proper beginnings of a list of names, the empty one included. -/
def beginnings : List String → List (List String)
  | [] => []
  | name :: names => [] :: (beginnings names).map (name :: ·)

/-- The tree of some files and directories. The directories on the way to them are there too. -/
def ofList (given : List (String × Option String)) : FileTree :=
  let placed := given.map fun (path, content) =>
    ((Path.ofText path).names,
      match content with
      | some content => FileEntry.file content
      | none => .directory)
  let around := placed.flatMap fun (names, _) => (beginnings names).map fun names =>
    (names, FileEntry.directory)
  ⟨placed ++ around ++ [([], .directory)]⟩

/-- What stands at the names of a place. -/
def entryAt? (tree : FileTree) (names : List String) : Option FileEntry :=
  tree.entries.lookup names

/-- Follows names from a place, given by its names in reverse. Two points lead back to the
directory around a directory, and out of the tree at its top. -/
def follow (tree : FileTree) : (place : List String) → (names : List String) →
    Option (List String)
  | place, [] => some place.reverse
  | place, name :: names =>
    if tree.entryAt? place.reverse ≠ some .directory then none
    else if name = ".." then
      match place with
      | [] => none
      | _ :: around => tree.follow around names
    else tree.follow (name :: place) names

/-- What stands at a path. Paths from the root of the file system lead out of the tree. -/
def find? (tree : FileTree) (path : Path) : Option FileEntry :=
  if path.root.isEmpty then (tree.follow [] path.names).bind tree.entryAt? else none

/-- Whether something stands at a path. -/
def contains (tree : FileTree) (path : Path) : Bool :=
  (tree.find? path).isSome

/-- The names of the entries of a directory, in increasing order. -/
def list (tree : FileTree) (path : Path) : List String :=
  match tree.follow [] path.names with
  | none => []
  | some place =>
    let names := tree.entries.filterMap fun (names, _) =>
      if names.dropLast = place then names.getLast? else none
    names.eraseDups.mergeSort fun a b => decide (a ≤ b)

end FileTree

/-- Why a file is not read. -/
inductive FileFault where
  | missing
  | isDirectory
deriving DecidableEq, Repr

/-- How the texts of files are had: from a path the text, its line ends brought to line feeds. -/
abbrev FileReader := Path → Except FileFault String

/-- The text of a file of the tree. -/
def FileTree.read (tree : FileTree) : FileReader := fun path =>
  match tree.find? path with
  | some (.file content) => .ok (.ofList (Text.ofPlatform content.toList))
  | some .directory => .error .isDirectory
  | none => .error .missing

/-- The names of files or directories that mark the top of a source tree. -/
def rootMarkers : List String := ["pyproject.toml", ".git"]

/-- The nearest directory from a path's own directory upwards that holds one of the markers. -/
def FileTree.rootAbove? (tree : FileTree) (path : Path) : Option Path :=
  let directory := path.parent
  let candidates := (List.range (directory.names.length + 1)).map fun levels =>
    { directory with names := directory.names.take (directory.names.length - levels) }
  candidates.find? fun candidate => rootMarkers.any fun marker =>
    tree.contains (candidate.child marker)

end Interview
