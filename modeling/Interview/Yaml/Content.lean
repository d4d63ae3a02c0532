import Interview.Yaml.Node.Grammar
import Interview.Yaml.Scalar

/-!
# The content of a document

The content of a document is the value that its node denotes. Aliases are followed, merged mappings
are put in before a mapping's own entries, and of two equal keys the last decides the value. A
document without a node has the absent value.

The content of a collection is read after all collections above it. A fault is therefore kept with
the level on which it is found, and of several faults the one on the highest level counts, on one
level the first.
-/

namespace Interview.Yaml

/-- A fault with the level on which it is found; the level of the document's node is zero. -/
abbrev Found := Nat × Fault

/-- The results of two readings, or the fault that counts. -/
def both {α β : Type} : Except Found α → Except Found β → Except Found (α × β)
  | .ok first, .ok second => .ok (first, second)
  | .error fault, .ok _ => .error fault
  | .ok _, .error fault => .error fault
  | .error first, .error second => .error (if first.1 ≤ second.1 then first else second)

/-- The results of several readings, or the fault that counts. -/
def every {α : Type} : List (Except Found α) → Except Found (List α)
  | [] => .ok []
  | result :: results => (both result (every results)).map fun (first, others) => first :: others

namespace Node

/-- The collections around a place, innermost first, with their anchors. -/
abbrev Path := List (Option Name × Shape)

/-- How many collections up the one stands that a node names, if it is an alias for one of them. -/
def levelsUp? (node : Node) : Path → Option (Nat × Shape)
  | [] => none
  | (anchor, shape) :: path =>
    match node, anchor with
    | .alias name, some anchor =>
      if anchor == name then some (0, shape)
      else (levelsUp? node path).map fun (levels, shape) => (levels + 1, shape)
    | .alias _, none =>
      (levelsUp? node path).map fun (levels, shape) => (levels + 1, shape)
    | _, _ => none

/-- The node that an alias stands for, and every other node itself. -/
def follow (known : Anchors) : Node → Node
  | .alias name => (known.lookup name).getD .nothing
  | node => node

/-- The text of a scalar. In place of a scalar a mapping may stand that has one under the mark of
the default value. -/
def scalarText (known : Anchors) : (fuel : Nat) → Node → Option (List Char)
  | 0, _ => none
  | fuel + 1, node =>
    match node.follow known with
    | .scalar _ _ content => some content
    | .mapping _ _ entries =>
      match entries.find? fun (key, _) => (key.follow known).tag == .default with
      | some (_, value) => scalarText known fuel value
      | none => none
    | _ => none

/-- A key whose tag marks the default value counts as a text. -/
def plainKey : Node → Node
  | .scalar anchor .default content => .scalar anchor .text content
  | key => key

/-- The entries of a mapping behind those of the mappings merged into it. Of a list of merged
mappings the first has the last word. A mapping that is merged into itself adds nothing. -/
def flatten (known : Anchors) : (fuel : Nat) → (around : List Name) → Node →
    Except Fault (List (Node × Node))
  | 0, _, _ => .ok []
  | fuel + 1, around, node =>
    match node.follow known with
    | .mapping anchor _ entries =>
      let around := anchor.toList ++ around
      let merge (source : Node) : Except Fault (List (Node × Node)) :=
        match source.follow known with
        | .mapping anchor _ _ =>
          if anchor.any around.contains then .ok [] else flatten known fuel around source
        | _ => .error (.malformed .badMerge)
      let step (sofar : List (Node × Node) × List (Node × Node)) (entry : Node × Node) :
          Except Fault (List (Node × Node) × List (Node × Node)) :=
        if (entry.1.follow known).tag == .merge then
          match entry.2.follow known with
          | .list _ _ sources => do
            let merged ← sources.mapM merge
            .ok (sofar.1 ++ merged.reverse.flatten, sofar.2)
          | source => do
            .ok (sofar.1 ++ (← merge source), sofar.2)
        else .ok (sofar.1, sofar.2 ++ [(plainKey entry.1, entry.2)])
      do
        let (merged, own) ← entries.foldlM step ([], [])
        .ok (merged ++ own)
    | _ => .error (.malformed .wrongKind)

/-- Whether a tag names a collection. -/
def isCollection : Tag → Bool
  | .list | .mapping | .set | .pairs | .orderedPairs => true
  | _ => false

/-- The value of a node whose tag does not name a collection. A moment is read from a scalar of its
own. -/
def scalarValue (known : Anchors) (fuel level : Nat) (node : Node) : Except Found Value :=
  match node.tag, node with
  | .merge, _ | .default, _ | .unknown, _ => .error (level, .malformed .unknownTag)
  | tag, node =>
    match scalarText known fuel node, decide (tag = .moment), node with
    | none, _, _ => .error (level, .malformed .wrongKind)
    | some _, true, .mapping _ _ _ => .error (level, .scalar .notText)
    | some content, _, _ => (tag.read content).mapError fun fault => (level, fault)

/-- The value of a key, which has to be a scalar. -/
def keyValue (known : Anchors) (fuel level : Nat) (key : Node) : Except Found Value :=
  let node := key.follow known
  if isCollection node.tag then .error (level, .malformed .collectionAsKey)
  else scalarValue known fuel level node

/-- Entries as they are kept in a mapping: of equal keys the first holds the place and the last the
value. -/
def distinctEntries (entries : List (Value × Value)) : List (Value × Value) :=
  entries.foldl (fun kept (key, value) => Value.write key value kept) []

/-- The value of a node that is reached through the collections of `path`. -/
def valueFrom (known : Anchors) : (fuel : Nat) → (level : Nat) → Path → Node → Except Found Value
  | 0, level, _, _ => .error (level, .malformed .wrongKind)
  | fuel + 1, level, path, node =>
    match levelsUp? node path with
    | some (levels, shape) => .ok (.again shape levels)
    | none =>
      let node := node.follow known
      let wrongKind : Except Found Value := .error (level + 1, .malformed .wrongKind)
      let inList := valueFrom known fuel (level + 1) ((node.anchor?, .list) :: path)
      let inMapping := valueFrom known fuel (level + 1) ((node.anchor?, .mapping) :: path)
      let mappingEntries : Except Found (List (Value × Value)) :=
        match flatten known (fuel + 1) [] node with
        | .error fault => .error (level + 1, fault)
        | .ok entries =>
          (every (entries.map fun (key, value) =>
            both (keyValue known (fuel + 1) (level + 1) key) (inMapping value))).map
            distinctEntries
      match node.tag with
      | .list =>
        match node with
        | .list _ _ items => (every (items.map inList)).map .list
        | _ => wrongKind
      | .mapping => mappingEntries.map .mapping
      | .set => mappingEntries.map fun entries => .set (entries.map Prod.fst)
      | .pairs | .orderedPairs =>
        match node with
        | .list _ _ items =>
          (every (items.map fun entry =>
            match entry.follow known with
            | .mapping _ _ [(key, value)] =>
              (both (inList key) (inList value)).map fun (key, value) => .pair key value
            | _ => wrongKind)).map .list
        | _ => wrongKind
      | _ => scalarValue known (fuel + 1) level node

/-- The value that a document's node denotes. A path through the document cannot be longer than
the number of its nodes, counted again for each anchor on the way. -/
def value (node : Node) : Except Fault Value := do
  let known ← node.anchors []
  let fuel := (known.length + 1) * (node.size + 1)
  match node.valueFrom known fuel 0 [] with
  | .ok value => .ok value
  | .error (_, fault) => .error fault

end Node

/-- The content of the document that a text holds. -/
def content (text : List Char) : Except Fault Value := do
  match ← Node.ofTokens (Tokens.ofText text) with
  | none => .ok .null
  | some node => node.value

end Interview.Yaml
