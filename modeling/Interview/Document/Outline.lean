import Interview.Text.Blank
import Interview.Text.Line
import Interview.Text.Lower

/-!
# The outline of a document

A document may begin with a frontmatter between two fences of three hyphens. Its body is a preamble
followed by sections, each of which starts with a heading of two number signs. Every line of the
body stands in exactly one of them.
-/

namespace Interview.Document

open Interview.Text

/-- A line without its line feed. -/
abbrev Line := List Char

/-- Whether a line is a fence. -/
def isFence (line : Line) : Bool :=
  trim line == ['-', '-', '-']

/-- The lines before and after the first fence, if there is one. -/
def splitAtFence : List Line → Option (List Line × List Line)
  | [] => none
  | line :: rest =>
    if isFence line then some ([], rest)
    else (splitAtFence rest).map fun (before, after) => (line :: before, after)

/-- How a document begins: without a frontmatter, with one, or with a fence that no other closes. -/
inductive Opening where
  | plain (body : List Line)
  | fenced (frontmatter body : List Line)
  | unclosed
deriving DecidableEq, Repr

/-- The beginning of a document. -/
def Opening.ofLines : List Line → Opening
  | [] => .plain []
  | line :: rest =>
    if isFence line then
      match splitAtFence rest with
      | some (frontmatter, body) => .fenced frontmatter body
      | none => .unclosed
    else .plain (line :: rest)

/-- The heading that a line is, without its number signs. -/
def headingOf? (line : Line) : Option (List Char) :=
  match trim line with
  | '#' :: '#' :: ' ' :: heading => some (trim heading)
  | _ => none

/-- A heading with the lines up to the next one. -/
structure Section where
  heading : List Char
  lines : List Line
deriving DecidableEq, Repr

/-- The name under which a section is known: its heading in lower case. -/
def Section.key (part : Section) : List Char :=
  lower part.heading

/-- The text of a section. -/
def Section.text (part : Section) : List Char :=
  unlines part.lines

/-- The lines before the first heading, and the sections. -/
def splitSections : List Line → List Line × List Section
  | [] => ([], [])
  | line :: rest =>
    let (before, sections) := splitSections rest
    match headingOf? line with
    | some heading => ([], ⟨heading, before⟩ :: sections)
    | none => (line :: before, sections)

/-- The first section whose name has occurred before it. -/
def repeatedSection? (seen : List (List Char)) : List Section → Option Section
  | [] => none
  | part :: sections =>
    if seen.contains part.key then some part else repeatedSection? (part.key :: seen) sections

/-- The sections that are read. -/
def sectionNames : List String := ["phases", "questions", "rules", "scoring", "report"]

/-- The text of the section with a name. -/
def sectionText? (name : String) (sections : List Section) : Option (List Char) :=
  (sections.find? fun part => part.key == name.toList).map (·.text)

end Interview.Document
