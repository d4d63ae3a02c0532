import Interview.Yaml.Tag

/-!
# Nodes

A document is a tree of nodes. A node can carry an anchor, and an alias elsewhere stands for the
node with that anchor, so the tree can denote a graph. `Node.anchors` collects the anchored nodes
and checks that each alias comes after the anchor that it names.
-/

namespace Interview.Yaml

/-- The name that an anchor gives to a node. -/
abbrev Name := List Char

/-- A node of a document. -/
inductive Node where
  | scalar (anchor : Option Name) (tag : Tag) (content : List Char)
  | list (anchor : Option Name) (tag : Tag) (items : List Node)
  | mapping (anchor : Option Name) (tag : Tag) (entries : List (Node × Node))
  | alias (name : Name)
deriving Repr

namespace Node

instance : Inhabited Node := ⟨.alias []⟩

/-- The node that stands where nothing is written. -/
def nothing : Node := .scalar none .null []

/-- The anchor of a node. -/
def anchor? : Node → Option Name
  | .scalar anchor _ _ | .list anchor _ _ | .mapping anchor _ _ => anchor
  | .alias _ => none

/-- The tag of a node. -/
def tag : Node → Tag
  | .scalar _ tag _ | .list _ tag _ | .mapping _ tag _ => tag
  | .alias _ => .unknown

mutual

/-- The number of nodes in a tree. -/
def size : Node → Nat
  | .scalar _ _ _ | .alias _ => 1
  | .list _ _ items => sizeItems items + 1
  | .mapping _ _ entries => sizeEntries entries + 1

/-- The number of nodes in a list of trees. -/
def sizeItems : List Node → Nat
  | [] => 0
  | item :: items => item.size + sizeItems items

/-- The number of nodes in the entries of a mapping. -/
def sizeEntries : List (Node × Node) → Nat
  | [] => 0
  | entry :: entries => sizeEntry entry + sizeEntries entries

/-- The number of nodes in an entry of a mapping. -/
def sizeEntry : Node × Node → Nat
  | (key, value) => key.size + value.size

end

/-- The anchored nodes of a document by name. -/
abbrev Anchors := List (Name × Node)

/-- The anchored nodes with another one among them, whose name must be new. -/
def register (node : Node) (seen : Anchors) : Except Fault Anchors :=
  match node.anchor? with
  | none => .ok seen
  | some name =>
    if (seen.lookup name).isSome then .error (.malformed .repeatedAnchor)
    else .ok ((name, node) :: seen)

mutual

/-- The anchored nodes of a tree and those seen before it. -/
def anchors (seen : Anchors) : Node → Except Fault Anchors
  | .alias name =>
    if (seen.lookup name).isSome then .ok seen else .error (.malformed .unknownAlias)
  | .scalar anchor tag content => register (.scalar anchor tag content) seen
  | .list anchor tag items => do
    itemAnchors (← register (.list anchor tag items) seen) items
  | .mapping anchor tag entries => do
    entryAnchors (← register (.mapping anchor tag entries) seen) entries

/-- The anchored nodes of a list of trees. -/
def itemAnchors (seen : Anchors) : List Node → Except Fault Anchors
  | [] => .ok seen
  | item :: items => do itemAnchors (← anchors seen item) items

/-- The anchored nodes of the entries of a mapping. -/
def entryAnchors (seen : Anchors) : List (Node × Node) → Except Fault Anchors
  | [] => .ok seen
  | entry :: entries => do entryAnchors (← pairAnchors seen entry) entries

/-- The anchored nodes of an entry of a mapping. -/
def pairAnchors (seen : Anchors) : Node × Node → Except Fault Anchors
  | (key, value) => do anchors (← anchors seen key) value

end

end Node

end Interview.Yaml
