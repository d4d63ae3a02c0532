/-!
# Paths

A path is a list of names, with slashes before the first one if it does not start at the current
directory. Empty names and single points do not count; the path without names is the current
directory.
-/

namespace Interview

/-- A path. `root` holds the slashes that it starts with: none, one, or exactly two. -/
structure Path where
  root : String
  names : List String
deriving DecidableEq, Repr

namespace Path

/-- The parts of a text between slashes. -/
def splitSlashes : List Char → List (List Char)
  | [] => [[]]
  | c :: rest =>
    if c == '/' then [] :: splitSlashes rest
    else
      match splitSlashes rest with
      | [] => [[c]]
      | first :: others => (c :: first) :: others

/-- The slashes that count at the start of a text. More than two count as one. -/
def rootOf (text : List Char) : String :=
  match (text.takeWhile (· == '/')).length with
  | 0 => ""
  | 2 => "//"
  | _ => "/"

/-- The path that a text denotes. -/
def ofText (text : String) : Path :=
  let names := (splitSlashes text.toList).filter fun name => name != [] && name != ['.']
  ⟨rootOf text.toList, names.map String.ofList⟩

/-- The path as a text. -/
def text (path : Path) : String :=
  if path.root.isEmpty && path.names.isEmpty then "."
  else path.root ++ "/".intercalate path.names

instance : ToString Path := ⟨text⟩

/-- The last name of a path. -/
def name (path : Path) : String :=
  path.names.getLast?.getD ""

/-- The part of a name before its last point, unless that point is its first or last character. -/
def stemOf (name : List Char) : List Char :=
  let ending := name.reverse.takeWhile (· != '.')
  let stem := (name.reverse.drop (ending.length + 1)).reverse
  if ending.isEmpty || stem.isEmpty then name else stem

/-- The last name of a path without its ending. -/
def stem (path : Path) : String :=
  .ofList (stemOf path.name.toList)

/-- The path without its last name. -/
def parent (path : Path) : Path :=
  { path with names := path.names.dropLast }

/-- The path of an entry of a directory. -/
def child (path : Path) (name : String) : Path :=
  { path with names := path.names ++ [name] }

end Path

end Interview
