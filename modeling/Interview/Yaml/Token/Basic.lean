/-!
# Tokens of YAML

A document is a list of tokens. Indentation shows in them as the start and end of block
collections; the place of a scalar or collection that turns out to be a key is marked by a `key`
token before it.
-/

namespace Interview.Yaml

/-- What a line that begins with a percent sign declares. -/
inductive Directive where
  | version (major : Nat)
  | handle (name expansion : List Char)
  | other
deriving DecidableEq, Repr

/-- A tag as it is written: with a handle, or in full. -/
structure TagName where
  handle : Option (List Char)
  rest : List Char
deriving DecidableEq, Repr

/-- The units of a document. -/
inductive Token where
  | directive (declared : Directive)
  | documentStart
  | documentEnd
  | blockListStart
  | blockMappingStart
  | blockEnd
  | flowListStart
  | flowListEnd
  | flowMappingStart
  | flowMappingEnd
  | entry
  | comma
  | key
  | value
  | alias (name : List Char)
  | anchor (name : List Char)
  | tag (name : TagName)
  | scalar (plain : Bool) (content : List Char)
deriving DecidableEq, Repr

end Interview.Yaml
