import Interview.Decimal.Nearest
import Interview.Text.Blank
import Interview.Text.Digit

/-!
# Reading numerals

Whole numbers and decimal fractions are read with the decimal digits of any script, an optional
sign, and blanks around them. A single underscore may stand between two digits. A whole number in
a base that is not a power of two may have at most `digitLimit` digits.
-/

namespace Interview.Decimal

open Interview.Text

/-- The number of digits beyond which a numeral is neither read nor written. -/
def digitLimit : Nat := 4300

/-- Why a text is not read as a whole number. -/
inductive NumeralFault where
  | malformed
  | tooLong (digits : Nat)
deriving DecidableEq, Repr

/-- The number with the given digits, most significant first. -/
def ofDigits (base : Nat) (digits : List Nat) : Nat :=
  digits.foldl (fun value digit => value * base + digit) 0

/-- The sign of a numeral, true for a minus, and what follows it. -/
def splitSign : List Char → Bool × List Char
  | '-' :: rest => (true, rest)
  | '+' :: rest => (false, rest)
  | rest => (false, rest)

/-- A magnitude with its sign. -/
def withSign (negative : Bool) (magnitude : Nat) : Int :=
  if negative then -(magnitude : Int) else magnitude

/-- The value of a digit in a base of at most sixteen. -/
def digitIn? (base : Nat) (c : Char) : Option Nat :=
  match (digit? c).or (hexDigit? c) with
  | some value => if value < base then some value else none
  | none => none

/-- The letter that may follow a leading zero to announce the base. -/
def announces (base : Nat) (c : Char) : Bool :=
  (base == 16 && (c == 'x' || c == 'X')) || (base == 8 && (c == 'o' || c == 'O')) ||
    (base == 2 && (c == 'b' || c == 'B'))

/-- What is left of a numeral after the announcement of its base, which one underscore may
follow. -/
def dropAnnouncement (base : Nat) : List Char → List Char
  | '0' :: c :: rest =>
    if announces base c then
      match rest with
      | '_' :: rest => rest
      | rest => rest
    else '0' :: c :: rest
  | text => text

/-- The leading digits of a text, in which single underscores are passed over, and what follows
them. The result is `none` if an underscore does not stand between two digits. -/
def groupedDigits (base : Nat) : (afterDigit : Bool) → List Char → Option (List Nat × List Char)
  | afterDigit, [] => if afterDigit then some ([], []) else none
  | afterDigit, c :: rest =>
    if c == '_' then
      if afterDigit then groupedDigits base false rest else none
    else
      match digitIn? base c with
      | some digit =>
        (groupedDigits base true rest).map fun (digits, rest) => (digit :: digits, rest)
      | none => if afterDigit then some ([], c :: rest) else none

/-- Whether the digits of a base are limited in number. -/
def isLimited (base : Nat) : Bool :=
  base != 2 && base != 8 && base != 16

/-- A text as a whole number in the given base. -/
def readWhole (base : Nat) (text : List Char) : Except NumeralFault Int :=
  let (negative, magnitude) := splitSign (strip isSpace text)
  match groupedDigits base false (dropAnnouncement base magnitude) with
  | none => .error .malformed
  | some (digits, rest) =>
    if isLimited base && digitLimit < digits.length then .error (.tooLong digits.length)
    else if rest.isEmpty then .ok (withSign negative (ofDigits base digits))
    else .error .malformed

/-- The leading decimal digits of a text and what follows them. -/
def leadingDigits : List Char → List Nat × List Char
  | [] => ([], [])
  | c :: rest =>
    match digit? c with
    | some digit =>
      let (digits, rest) := leadingDigits rest
      (digit :: digits, rest)
    | none => ([], c :: rest)

/-- The exponent that ends a decimal fraction: none, or a letter, a sign and digits. -/
def readExponent? : List Char → Option Int
  | [] => some 0
  | c :: rest =>
    if c == 'e' || c == 'E' then
      let (negative, rest) := splitSign rest
      match leadingDigits rest with
      | ([], _) => none
      | (digits, []) => some (withSign negative (ofDigits 10 digits))
      | _ => none
    else none

/-- A decimal fraction without a sign: digits with at most one point among or beside them, and an
optional exponent. -/
def readUnsigned? (negative : Bool) (text : List Char) : Option Float :=
  let (whole, rest) := leadingDigits text
  let (fraction, rest) :=
    match rest with
    | '.' :: rest => leadingDigits rest
    | rest => ([], rest)
  if whole.isEmpty && fraction.isEmpty then none
  else
    (readExponent? rest).map fun exponent =>
      ofScientific negative (ofDigits 10 (whole ++ fraction)) (exponent - fraction.length)

/-- A decimal fraction with an optional sign, and nothing else. -/
def readFraction? (text : List Char) : Option Float :=
  let (negative, rest) := splitSign text
  readUnsigned? negative rest

/-- The text without its underscores, each of which has to stand between two digits. -/
def dropSeparators : (afterDigit : Bool) → List Char → Option (List Char)
  | _, [] => some []
  | afterDigit, '_' :: rest =>
    match rest with
    | c :: _ => if afterDigit && isDigit c then dropSeparators false rest else none
    | [] => none
  | _, c :: rest => (dropSeparators (isDigit c) rest).map (c :: ·)

/-- A text as a decimal fraction: blanks around it and single underscores between digits are passed
over, and infinity and the absent number may be named. -/
def readDecimal? (text : List Char) : Option Float :=
  match dropSeparators false (strip isSpace text) with
  | none => none
  | some text =>
    let (negative, rest) := splitSign text
    let name := rest.map Char.toLower
    if name == "inf".toList || name == "infinity".toList then
      some (ofMagnitude negative infinityBits)
    else if name == "nan".toList then some notANumber
    else readUnsigned? negative rest

/-- The decimal form of an integer, if it has at most `digitLimit` digits. -/
def wholeText? (n : Int) : Option String :=
  if n.natAbs < Nat.pow 10 digitLimit then some (toString n) else none

end Interview.Decimal
