import Interview.Text.Digit
import Interview.Yaml.Token.Scalar

/-!
# The types of nodes

Every node has a tag, which names its type. A tag is either written or, for a plain scalar, inferred
from the form of its text: words for truth values, numerals, moments, and the marks of an absent
value, of merging and of a default value.
-/

namespace Interview.Yaml

open Interview.Text

/-- The type that a tag names. -/
inductive Tag where
  | null
  | bool
  | int
  | float
  | octets
  | moment
  | orderedPairs
  | pairs
  | set
  | text
  | list
  | mapping
  | merge
  | default
  | unknown
deriving DecidableEq, Repr

/-- The beginning that the tags of the standard types share. -/
def Tag.standard : List Char := "tag:yaml.org,2002:".toList

/-- The standard types by name. -/
def Tag.names : List (List Char × Tag) :=
  [("null".toList, .null), ("bool".toList, .bool), ("int".toList, .int), ("float".toList, .float),
   ("binary".toList, .octets), ("timestamp".toList, .moment), ("omap".toList, .orderedPairs),
   ("pairs".toList, .pairs), ("set".toList, .set), ("str".toList, .text), ("seq".toList, .list),
   ("map".toList, .mapping), ("merge".toList, .merge), ("value".toList, .default)]

/-- The type that a tag written in full names. -/
def Tag.ofName (name : List Char) : Tag :=
  if Tag.standard.isPrefixOf name then
    (Tag.names.lookup (name.drop Tag.standard.length)).getD .unknown
  else .unknown

/-! ## The forms of plain scalars -/

/-- Digits of a numeral in groups, which underscores separate. -/
def isDigitOrLow (c : Char) : Bool :=
  isAsciiDigit c || c == '_'

/-- A numeral without its sign. -/
def dropSign : List Char → List Char
  | c :: rest => if c == '+' || c == '-' then rest else c :: rest
  | [] => []

/-- Whether a text is empty or an exponent: a letter, a sign and digits. -/
def isExponent : List Char → Bool
  | [] => true
  | letter :: sign :: digits =>
    (letter == 'e' || letter == 'E') && (sign == '+' || sign == '-') && !digits.isEmpty &&
      digits.all isAsciiDigit
  | _ => false

/-- The parts of a text between colons. -/
def colonParts : List Char → List (List Char)
  | [] => [[]]
  | c :: rest =>
    if c == ':' then [] :: colonParts rest
    else
      match colonParts rest with
      | [] => [[c]]
      | first :: others => (c :: first) :: others

/-- A part of a numeral in base sixty after the first: one or two digits below sixty. -/
def isSixtieth : List Char → Bool
  | [c] => isAsciiDigit c
  | [c, d] => '0' ≤ c && c ≤ '5' && isAsciiDigit d
  | _ => false

/-- Whether a text is the unsigned form of a whole number in base sixty, with at least one colon,
whose first part starts with a digit that satisfies `lead`. -/
def isSexagesimal (lead : Char → Bool) (text : List Char) : Bool :=
  match colonParts text with
  | (c :: first) :: second :: others =>
    lead c && first.all isDigitOrLow && (second :: others).all isSixtieth
  | _ => false

/-- Whether a plain scalar reads as a decimal fraction. -/
def isFloatForm (text : List Char) : Bool :=
  let unsigned := dropSign text
  let name := unsigned.drop 1
  let (whole, rest) := unsigned.span isDigitOrLow
  (match whole, rest with
    | c :: _, '.' :: rest => isAsciiDigit c && isExponent (rest.dropWhile isDigitOrLow)
    | _, _ => false) ||
  (match text with
    | '.' :: c :: rest => isAsciiDigit c && isExponent (rest.dropWhile isDigitOrLow)
    | _ => false) ||
  (match unsigned.span (· != '.') with
    | (minutes, '.' :: fraction) => isSexagesimal isAsciiDigit minutes && fraction.all isDigitOrLow
    | _ => false) ||
  (unsigned.head? == some '.' &&
    (name == "inf".toList || name == "Inf".toList || name == "INF".toList)) ||
  text == ".nan".toList || text == ".NaN".toList || text == ".NAN".toList

/-- Whether a plain scalar reads as a whole number. -/
def isIntForm (text : List Char) : Bool :=
  match dropSign text with
  | ['0'] => true
  | '0' :: c :: rest =>
    if c == 'b' then
      !rest.isEmpty && rest.all fun d => d == '0' || d == '1' || d == '_'
    else if c == 'x' then
      !rest.isEmpty && rest.all fun d => (hexDigit? d).isSome || d == '_'
    else (c :: rest).all fun d => ('0' ≤ d && d ≤ '7') || d == '_'
  | c :: rest =>
    ('1' ≤ c && c ≤ '9') &&
      (rest.all isDigitOrLow || isSexagesimal (fun d => '1' ≤ d && d ≤ '9') (c :: rest))
  | [] => false

/-- The words for truth values, with their meaning. -/
def truthWords : List (List Char × Bool) :=
  [("yes".toList, true), ("no".toList, false), ("true".toList, true), ("false".toList, false),
   ("on".toList, true), ("off".toList, false)]

/-- Whether a plain scalar reads as a truth value: one of the words in lower case, capitalised, or
in capitals. -/
def isBoolForm (text : List Char) : Bool :=
  truthWords.any fun (word, _) =>
    text == word || text == word.map Char.toUpper ||
      text == (word.take 1).map Char.toUpper ++ word.drop 1

/-- Whether a plain scalar reads as the absent value. -/
def isNullForm (text : List Char) : Bool :=
  text == "~".toList || text == "null".toList || text == "Null".toList || text == "NULL".toList

/-- The leading digits of a text, between `least` and `most` of them, and what follows. -/
def digitsBetween (least most : Nat) (text : List Char) : Option (List Char × List Char) :=
  let digits := (text.take most).takeWhile isAsciiDigit
  if least ≤ digits.length then some (digits, text.drop digits.length) else none

/-- What follows a character that a text starts with. -/
def expect (c : Char) : List Char → Option (List Char)
  | d :: rest => if d == c then some rest else none
  | [] => none

/-- The parts of a written moment. A day alone has no time. The fraction of a second is given by its
digits, and the distance from universal time by a sign, hours and minutes. -/
structure MomentText where
  year : List Char
  month : List Char
  day : List Char
  time : Option (List Char × List Char × List Char × List Char)
  zone : Option (Bool × List Char × List Char)
deriving DecidableEq, Repr

/-- The distance from universal time that ends a moment: none, the letter `Z`, or a sign, hours and
perhaps minutes. -/
def readZone? (text : List Char) : Option (Option (Bool × List Char × List Char)) :=
  if text.isEmpty then some none
  else
    match text.dropWhile isSpaceOrTab with
    | ['Z'] => some (some (false, ['0'], ['0']))
    | sign :: rest =>
      if sign == '+' || sign == '-' then do
        let (hours, rest) ← digitsBetween 1 2 rest
        match rest with
        | [] => some (some (sign == '-', hours, ['0']))
        | ':' :: rest =>
          match ← digitsBetween 2 2 rest with
          | (minutes, []) => some (some (sign == '-', hours, minutes))
          | _ => none
        | _ => none
      else none
    | [] => none

/-- The time of a moment and what follows it. -/
def readTime? (text : List Char) :
    Option ((List Char × List Char × List Char × List Char) × List Char) := do
  let (hour, rest) ← digitsBetween 1 2 text
  let (minute, rest) ← digitsBetween 2 2 (← expect ':' rest)
  let (second, rest) ← digitsBetween 2 2 (← expect ':' rest)
  match rest with
  | '.' :: rest =>
    let (fraction, rest) := rest.span isAsciiDigit
    some ((hour, minute, second, fraction), rest)
  | rest => some ((hour, minute, second, []), rest)

/-- The parts of a moment, if the text has its form: a day, and perhaps a time after the letter `T`
or a gap, and after the time perhaps a zone. -/
def MomentText.read? (text : List Char) : Option MomentText := do
  let (year, rest) ← digitsBetween 4 4 text
  let (month, rest) ← digitsBetween 1 2 (← expect '-' rest)
  let (day, rest) ← digitsBetween 1 2 (← expect '-' rest)
  match rest with
  | [] => some ⟨year, month, day, none, none⟩
  | c :: rest =>
    let rest ←
      if c == 'T' || c == 't' then some rest
      else if isSpaceOrTab c then some (rest.dropWhile isSpaceOrTab)
      else none
    let (time, rest) ← readTime? rest
    let zone ← readZone? rest
    some ⟨year, month, day, some time, zone⟩

/-- Whether a plain scalar reads as a moment. The month and day of a day alone have two digits. -/
def isMomentForm (text : List Char) : Bool :=
  match MomentText.read? text with
  | none => false
  | some parts => parts.time.isSome || (parts.month.length == 2 && parts.day.length == 2)

/-- A text without the one line feed that may end it. -/
def dropLastFeed (text : List Char) : List Char :=
  if text.getLast? == some '\n' then text.dropLast else text

/-- The tag of a plain scalar. The marks of tags, anchors and aliases alone name no type. -/
def Tag.ofPlain (text : List Char) : Tag :=
  if text.isEmpty then .null
  else
    let form := dropLastFeed text
    if isBoolForm form then .bool
    else if isFloatForm form then .float
    else if isIntForm form then .int
    else if form == "<<".toList then .merge
    else if isNullForm form then .null
    else if isMomentForm form then .moment
    else if form == "=".toList then .default
    else if form == ['!'] || form == ['&'] || form == ['*'] then .unknown
    else .text

end Interview.Yaml
