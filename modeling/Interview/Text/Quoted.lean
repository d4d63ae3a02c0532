import Interview.Text.Digit
import Interview.Text.PrintableTable

/-!
# Quoted texts

A text inside a list or an error message is shown between quotes, with its invisible characters
written as escapes. Single quotes are used unless the text holds a single quote and no double one.
-/

namespace Interview.Text

/-- Characters that show as themselves inside a quoted text. -/
def isPrintable (c : Char) : Bool :=
  let n := c.toNat
  if n < 128 then 32 ≤ n && n ≤ 126
  else !(unprintableRanges.any fun range => range.1 ≤ n && n ≤ range.2)

/-- The escape of a character without a visible form: the shortest of two, four or eight
hexadecimal digits that holds its code point. -/
def escapeCode (c : Char) : List Char :=
  let n := c.toNat
  if n < 0x100 then '\\' :: 'x' :: hex 2 n
  else if n < 0x10000 then '\\' :: 'u' :: hex 4 n
  else '\\' :: 'U' :: hex 8 n

/-- How one character is written between the quotes `mark`. -/
def quoteChar (mark c : Char) : List Char :=
  if c == mark || c == '\\' then ['\\', c]
  else if c == '\n' then ['\\', 'n']
  else if c == '\r' then ['\\', 'r']
  else if c == '\t' then ['\\', 't']
  else if isPrintable c then [c]
  else escapeCode c

/-- The quote that a text is written between. -/
def quoteMark (text : List Char) : Char :=
  if text.contains '\'' && !text.contains '"' then '"' else '\''

/-- A text between quotes. -/
def quoted (text : List Char) : List Char :=
  let mark := quoteMark text
  mark :: text.flatMap (quoteChar mark) ++ [mark]

/-- How one octet is written between the quotes `mark`. -/
def quoteOctet (mark : Char) (octet : UInt8) : List Char :=
  let c := Char.ofNat octet.toNat
  if octet.toNat < 127 then quoteChar mark c else escapeCode c

/-- A run of octets between quotes, marked as such by a leading `b`. -/
def quotedOctets (octets : List UInt8) : List Char :=
  let mark := quoteMark (octets.map fun octet => Char.ofNat octet.toNat)
  'b' :: mark :: octets.flatMap (quoteOctet mark) ++ [mark]

end Interview.Text

/-- A text between quotes, its invisible characters escaped. -/
def String.quoted (text : String) : String :=
  .ofList (Interview.Text.quoted text.toList)
