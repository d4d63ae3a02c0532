/-!
# Why a text is not read as YAML

A text that is not well-formed is told from a scalar that is well-formed but has no value of the
type that its tag names. A fault says what is wrong, but not where in the text, nor in which words a
reader would say it.
-/

namespace Interview.Yaml

/-- What is wrong with the form of a text. -/
inductive Malformed where
  | strangeCharacter
  | lostKey
  | misplacedEntry
  | misplacedKey
  | misplacedValue
  | strayBracket
  | strangeStart
  | badDirective
  | badAnchor
  | badTag
  | badBlockHeader
  | openQuote
  | badEscape
  | unexpectedToken
  | secondDocument
  | unknownAlias
  | repeatedAnchor
  | unknownHandle
  | unknownTag
  | wrongKind
  | collectionAsKey
  | badMerge
  | badOctets
deriving DecidableEq, Repr

/-- Why a scalar has no value of its type. -/
inductive ScalarFault where
  /-- The text is not a numeral, or the day does not exist. -/
  | unreadable
  /-- The text is none of the words for a truth value. -/
  | unknownWord
  /-- The text does not have the form of a moment. -/
  | shapeless
  /-- There is no text to read a number from. -/
  | absent
  /-- A number on the way to the value is too large. -/
  | tooLarge
  /-- A mapping stands where a moment is to be read. -/
  | notText
deriving DecidableEq, Repr

/-- Why a text is not read as YAML. -/
inductive Fault where
  | malformed (why : Malformed)
  | scalar (why : ScalarFault)
deriving DecidableEq, Repr

/-- The reason in words of its own. What a reader of YAML says, with the line, the column and a part
of the text, is not modelled. -/
def Malformed.message : Malformed → String
  | .strangeCharacter => "a character is not allowed in a document"
  | .lostKey => "a key is not followed by a colon"
  | .misplacedEntry => "a list entry is not allowed here"
  | .misplacedKey => "a key is not allowed here"
  | .misplacedValue => "a value is not allowed here"
  | .strayBracket => "a bracket closes nothing"
  | .strangeStart => "a character cannot start a token"
  | .badDirective => "a directive is malformed"
  | .badAnchor => "an anchor or alias is malformed"
  | .badTag => "a tag is malformed"
  | .badBlockHeader => "the header of a block scalar is malformed"
  | .openQuote => "a quoted scalar is not closed"
  | .badEscape => "an escape sequence is unknown or incomplete"
  | .unexpectedToken => "something is missing or out of place"
  | .secondDocument => "there is more than one document"
  | .unknownAlias => "an alias names no anchor before it"
  | .repeatedAnchor => "an anchor is used twice"
  | .unknownHandle => "a tag has an undeclared handle"
  | .unknownTag => "a tag names no known type"
  | .wrongKind => "a tag does not fit the kind of its node"
  | .collectionAsKey => "a collection cannot be a key"
  | .badMerge => "only mappings can be merged"
  | .badOctets => "octets are not written in base sixty-four"

end Interview.Yaml
