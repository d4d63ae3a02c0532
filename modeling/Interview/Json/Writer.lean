import Interview.Decimal.Layout
import Interview.Text.Digit
import Interview.Value.Basic

/-!
# Values in JSON

JSON knows fewer values than there are: `carried` is the value that JSON can carry in place of
another. It is written over several lines, each item and entry on a line of its own, indented by its
depth. Characters outside the basic alphabet stay as they are.
-/

namespace Interview.Json

open Interview.Text

mutual

/-- The value that JSON carries for a value. A number that is not finite becomes the absent value,
and so does every value of a kind that JSON lacks. -/
def carried : Value → Value
  | .float x => if x.isNaN || x.isInf then .null else .float x
  | .list items => .list (carriedItems items)
  | .mapping entries => .mapping (carriedEntries entries)
  | .bytes _ | .date _ | .moment _ | .pair _ _ | .set _ | .again _ _ => .null
  | value => value

/-- The items that JSON carries for the items of a list. -/
def carriedItems : List Value → List Value
  | [] => []
  | item :: items => carried item :: carriedItems items

/-- The entries that JSON carries for the entries of a mapping. -/
def carriedEntries : List (Value × Value) → List (Value × Value)
  | [] => []
  | entry :: entries => carriedEntry entry :: carriedEntries entries

/-- The entry that JSON carries for an entry of a mapping. Its key stays as it is. -/
def carriedEntry : Value × Value → Value × Value
  | (key, value) => (key, carried value)

end

/-- How a character is written in a text. -/
def escapeChar (c : Char) : List Char :=
  if c == '"' then ['\\', '"']
  else if c == '\\' then ['\\', '\\']
  else if c == '\n' then ['\\', 'n']
  else if c == '\r' then ['\\', 'r']
  else if c == '\t' then ['\\', 't']
  else if c == '\x08' then ['\\', 'b']
  else if c == '\x0c' then ['\\', 'f']
  else if c.toNat < 32 then '\\' :: 'u' :: hex 4 c.toNat
  else [c]

/-- A text between quotes. -/
def writeText (text : String) : String :=
  .ofList ('"' :: text.toList.flatMap escapeChar ++ ['"'])

/-- A new line at a depth. -/
def newLine (indent depth : Nat) : String :=
  .ofList ('\n' :: List.replicate (indent * depth) ' ')

/-- Written parts of a collection, each on a line of its own. -/
def writeParts (opening closing : String) (indent depth : Nat) (parts : List String) : String :=
  if parts.isEmpty then opening ++ closing
  else
    let line := newLine indent (depth + 1)
    opening ++ line ++ ("," ++ line).intercalate parts ++ newLine indent depth ++ closing

mutual

/-- A value that JSON can carry, at a depth. -/
def writeAt (indent depth : Nat) : Value → String
  | .null => "null"
  | .bool truth => if truth then "true" else "false"
  | .int n => toString n
  | .float x => Decimal.text x
  | .text content => writeText content
  | .list items => writeParts "[" "]" indent depth (writeItems indent (depth + 1) items)
  | .mapping entries =>
    writeParts "\x7b" "\x7d" indent depth (writeEntries indent (depth + 1) entries)
  | .bytes _ | .date _ | .moment _ | .pair _ _ | .set _ | .again _ _ => "null"

/-- The items of a list. -/
def writeItems (indent depth : Nat) : List Value → List String
  | [] => []
  | item :: items => writeAt indent depth item :: writeItems indent depth items

/-- The entries of a mapping. -/
def writeEntries (indent depth : Nat) : List (Value × Value) → List String
  | [] => []
  | entry :: entries => writeEntry indent depth entry :: writeEntries indent depth entries

/-- An entry of a mapping: its key, a colon and its value. -/
def writeEntry (indent depth : Nat) : Value × Value → String
  | (.text key, value) => writeText key ++ ": " ++ writeAt indent depth value
  | (_, value) => "null: " ++ writeAt indent depth value

end

/-- A value, each depth indented by a number of spaces. -/
def write (indent : Nat) (value : Value) : String :=
  writeAt indent 0 (carried value)

end Interview.Json
