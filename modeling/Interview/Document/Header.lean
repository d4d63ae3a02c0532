import Interview.Document.Outline
import Interview.Document.Rule
import Interview.Value.Display

/-!
# The header of a document

What a document says about itself stands in its frontmatter or in the lines of its preamble, each a
key, a colon and a value. A key of the frontmatter counts before the same key of the preamble, and
of several lines for one key the last one counts. The first line that starts with a number sign and
a space is the title.
-/

namespace Interview.Document

open Interview.Text

/-- The keys that a line of the preamble can set. -/
def headerKeys : List String :=
  ["slug", "name", "category", "objective", "protocol", "persona", "version"]

/-- Letters of the basic alphabet. -/
def isLetter (c : Char) : Bool :=
  ('a' ≤ c && c ≤ 'z') || ('A' ≤ c && c ≤ 'Z')

/-- The key and value that a line of the preamble sets. -/
def headerLine? (line : Line) : Option (String × String) :=
  let (key, rest) := (trim line).span isLetter
  let key := String.ofList (lower key)
  match rest.dropWhile isBlank with
  | ':' :: value =>
    if headerKeys.contains key then some (key, String.ofList (unquote (trim value))) else none
  | _ => none

/-- The title that a line is: what follows a number sign and a space, without a leading mark that
the document is a playbook. -/
def titleOf? (line : Line) : Option (List Char) :=
  match trim line with
  | '#' :: ' ' :: rest => some rest
  | _ => none

/-- A title without the mark that the document is a playbook. -/
def dropTitleMark (title : List Char) : List Char :=
  let title := trim title
  if "playbook:".toList.isPrefixOf (lower title) then trim (title.drop "playbook:".length)
  else title

/-- What the preamble says: the title, and values by key. -/
structure Preamble where
  title : Option (List Char)
  values : Entries String

/-- The preamble with one line more. -/
def Preamble.add (preamble : Preamble) (line : Line) : Preamble :=
  match preamble.title, titleOf? line with
  | none, some title => { preamble with title := some (dropTitleMark title) }
  | _, _ =>
    match headerLine? line with
    | some (key, value) => { preamble with values := preamble.values.put key value }
    | none => preamble

/-- What the lines before the first section say. -/
def Preamble.ofLines (lines : List Line) : Preamble :=
  lines.foldl Preamble.add ⟨none, .empty⟩

/-- What a document says about itself. -/
structure Header where
  frontmatter : List (Value × Value)
  preamble : Preamble

namespace Header

/-- The value under a key. -/
def value? (header : Header) (key : String) : Option Value :=
  match Value.lookup (.text key) header.frontmatter with
  | some value => some value
  | none => (header.preamble.values.find? key).map .text

/-- The title of the document, unless it is empty. -/
def title? (header : Header) : Option String :=
  match header.preamble.title with
  | some (c :: title) => some (String.ofList (c :: title))
  | _ => none

end Header

/-- A number with more digits than are written stands where a text is needed. -/
inductive LongNumber where
  | found
deriving DecidableEq, Repr

/-- The text of a value. -/
def textOf (value : Value) : Except LongNumber String :=
  match value.text? with
  | some text => .ok text
  | none => .error .found

/-- The trimmed text under a key, unless it is blank. -/
def Header.text? (header : Header) (key : String) : Except LongNumber (Option String) :=
  match header.value? key with
  | none | some .null => .ok none
  | some value => do
    let text := (← textOf value).trimBlank
    .ok (if text.isEmpty then none else some text)

end Interview.Document
