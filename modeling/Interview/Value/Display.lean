import Interview.Decimal.Layout
import Interview.Decimal.Numeral
import Interview.Text.Quoted
import Interview.Value.Basic

/-!
# The text of a value

`Value.text?` is how a value appears in a prompt, in a template and in a message: a text as it is, a
date or moment in its plain form, and everything else as `literal?` writes it. Inside a collection a
text stands between quotes. An integer of more than `Decimal.digitLimit` digits has no text, and
neither has a collection that holds one.
-/

namespace Interview.Value

/-- Items separated by commas between an opening and a closing bracket. -/
def bracketed (opening closing : String) (items : List String) : String :=
  opening ++ ", ".intercalate items ++ closing

mutual

/-- The value as it is written inside a collection. -/
def literal? : Value → Option String
  | .null => some "None"
  | .bool truth => some (if truth then "True" else "False")
  | .int n => Decimal.wholeText? n
  | .float x => some (Decimal.text x)
  | .text content => some content.quoted
  | .bytes octets => some (String.ofList (Text.quotedOctets octets))
  | .date day => some day.named
  | .moment instant => some instant.named
  | .list items => (literals? items).map (bracketed "[" "]")
  | .pair first second => do
    let first ← literal? first
    let second ← literal? second
    some (bracketed "(" ")" [first, second])
  | .set [] => some "set()"
  | .set members => (literals? members).map (bracketed "\x7b" "\x7d")
  | .mapping entries => (entryLiterals? entries).map (bracketed "\x7b" "\x7d")
  | .again .list _ => some "[...]"
  | .again .mapping _ => some "\x7b...\x7d"

/-- The values of a list as they are written inside it. -/
def literals? : List Value → Option (List String)
  | [] => some []
  | item :: items => do
    let item ← literal? item
    let items ← literals? items
    some (item :: items)

/-- The entries of a mapping as they are written inside it. -/
def entryLiterals? : List (Value × Value) → Option (List String)
  | [] => some []
  | entry :: entries => do
    let entry ← entryLiteral? entry
    let entries ← entryLiterals? entries
    some (entry :: entries)

/-- An entry of a mapping: its key, a colon and its value. -/
def entryLiteral? : Value × Value → Option String
  | (key, value) => do
    let key ← literal? key
    let value ← literal? value
    some (key ++ ": " ++ value)

end

/-- The text of a value. -/
def text? : Value → Option String
  | .text content => some content
  | .date day => some day.text
  | .moment instant => some instant.text
  | value => literal? value

end Interview.Value
