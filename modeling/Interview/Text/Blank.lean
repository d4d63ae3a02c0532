/-!
# Blank characters and trimming

A document, a rule value and a header field are trimmed of the same set of characters: the white
space of Unicode together with the four information separators U+001C to U+001F. `isBlank` is that
set, and `trim` removes it from both ends of a text.

Numerals that arrive as record fields are trimmed of white space alone, which `isSpace` describes.
-/

namespace Interview.Text

/-- White space of Unicode: tab to carriage return, the space, the next-line and no-break
controls, and the spaces and separators of the general punctuation block. -/
def isSpace (c : Char) : Bool :=
  let n := c.toNat
  (9 ≤ n && n ≤ 13) || n == 32 || n == 0x85 || n == 0xA0 || n == 0x1680 ||
    (0x2000 ≤ n && n ≤ 0x200A) || n == 0x2028 || n == 0x2029 || n == 0x202F || n == 0x205F ||
    n == 0x3000

/-- Characters that trimming removes: white space and the information separators. -/
def isBlank (c : Char) : Bool :=
  isSpace c || (28 ≤ c.toNat && c.toNat ≤ 31)

/-- What is left of a text after its leading run of the class `p`. -/
def dropStart (p : Char → Bool) (text : List Char) : List Char :=
  text.dropWhile p

/-- What is left of a text without its trailing run of the class `p`. -/
def dropEnd (p : Char → Bool) (text : List Char) : List Char :=
  (text.reverse.dropWhile p).reverse

/-- The text without the characters of the class `p` at both ends. -/
def strip (p : Char → Bool) (text : List Char) : List Char :=
  dropEnd p (dropStart p text)

/-- The text without blank characters at both ends. -/
def trim (text : List Char) : List Char :=
  strip isBlank text

/-- A text of blank characters only, or none at all. -/
def isBlankText (text : List Char) : Bool :=
  text.all isBlank

@[simp] theorem trim_nil : trim [] = [] := rfl

end Interview.Text

/-- The text without blank characters at both ends. -/
def String.trimBlank (text : String) : String :=
  .ofList (Interview.Text.trim text.toList)

/-- A text of blank characters only, or none at all. -/
def String.isBlankText (text : String) : Bool :=
  Interview.Text.isBlankText text.toList
