import Interview.Decimal.Numeral
import Interview.Record.Fault
import Interview.Value.Basic

/-!
# Scalars of records

A field of a record takes more than one kind of value. A whole number can also be given by a truth
value, by a double without a fraction, or by its numeral; a truth value also by one or zero, or by
a word. Octets count as the text that they encode.
-/

namespace Interview.Record

open Interview.Text

/-- The text that octets encode in UTF-8. -/
def textOfOctets? (octets : List UInt8) : Option String :=
  String.fromUTF8? ⟨octets.toArray⟩

/-- A text. -/
def readText : Value → Checked String
  | .text content => .ok content
  | .bytes octets =>
    match textOfOctets? octets with
    | some content => .ok content
    | none => .fail .unreadableText
  | _ => .fail .notText

/-! ## Whole numbers -/

/-- A whole number as it is written without freedom: an optional minus, and ASCII digits of which
the first is not zero unless it is the only one. -/
def strictWhole? (text : List Char) : Option Int :=
  let (negative, digits) :=
    match text with
    | '-' :: rest => (true, rest)
    | rest => (false, rest)
  if digits.isEmpty || !digits.all isAsciiDigit ||
      (digits.head? == some '0' && digits.length != 1) then none
  else some (Decimal.withSign negative (Decimal.ofDigits 10 (digits.map fun c => c.toNat - 48)))

/-- A numeral behind the zeros, and underscores among them, that lead it. The last zero stays before
a point and at the end. -/
def dropZerosFrom (last : Char) : List Char → Option (List Char)
  | [] => some [last]
  | c :: rest =>
    if c == '0' || c == '_' then dropZerosFrom c rest
    else if isAsciiDigit c then some (c :: rest)
    else if c == '.' then some (last :: c :: rest)
    else none

/-- A numeral behind its leading zeros. A numeral that starts with a minus stays as it is. -/
def dropLeadingZeros : List Char → Option (List Char)
  | [] => none
  | c :: rest =>
    if c == '0' then dropZerosFrom c rest
    else if isAsciiDigit c || c == '-' then some (c :: rest)
    else none

/-- A numeral before a point that only zeros follow, of which there is at least one. -/
def dropFraction (text : List Char) : List Char :=
  match text.span (· != '.') with
  | (whole, '.' :: fraction) =>
    if !fraction.isEmpty && fraction.all (· == '0') then whole else text
  | _ => text

/-- Whether each underscore of a text stands alone and between two other characters. -/
def underscoresSeparate : (afterOther : Bool) → List Char → Bool
  | _, [] => true
  | afterOther, c :: rest =>
    if c == '_' then afterOther && !rest.isEmpty && underscoresSeparate false rest
    else underscoresSeparate true rest

/-- A text without its underscores, if each of them separates. -/
def dropUnderscores (text : List Char) : List Char :=
  if underscoresSeparate false text then text.filter (· != '_') else text

/-- A numeral without the plus before it. A plus and a minus do not go together. -/
def dropPlus : List Char → Option (List Char)
  | '+' :: '-' :: _ => none
  | '+' :: rest => some rest
  | text => some text

/-- A numeral in the strict form, from one with blanks around it, a plus before it, leading zeros,
an empty fraction or separating underscores. -/
def tidyNumeral (text : List Char) : Option (List Char) :=
  ((dropPlus (strip isSpace text)).bind dropLeadingZeros).map fun text =>
    dropUnderscores (dropFraction text)

/-- The number of octets of a text in UTF-8. -/
def octetCount (text : List Char) : Nat :=
  (text.map Char.utf8Size).foldl (· + ·) 0

/-- A numeral as a whole number. It can have as many octets as a number may have digits. -/
def wholeOfText (text : List Char) : Checked Int :=
  if Decimal.digitLimit < octetCount text then .fail .wholeTooLong
  else
    match strictWhole? text with
    | some number => .ok number
    | none =>
      match (tidyNumeral text).bind strictWhole? with
      | some number => .ok number
      | none => .fail .unreadableWhole

/-- Whether an integer lies strictly between the limits of sixty-four bits. -/
def fitsWord (n : Int) : Bool :=
  -Int.pow 2 63 < n && n < Int.pow 2 63

/-- A double as a whole number. -/
def wholeOfDouble (x : Float) : Checked Int :=
  if x.isNaN || x.isInf then .fail .notFinite
  else
    match Decimal.wholeValue? x with
    | none => .fail .hasFraction
    | some n => if fitsWord n then .ok n else .fail .wholeTooLong

/-- A whole number. -/
def readWhole : Value → Checked Int
  | .int n => .ok n
  | .bool truth => .ok (if truth then 1 else 0)
  | .float x => wholeOfDouble x
  | .text content => wholeOfText content.toList
  | .bytes octets =>
    match textOfOctets? octets with
    | some content => wholeOfText content.toList
    | none => .fail .unreadableWhole
  | _ => .fail .notWhole

/-- A whole number that is not below `least`. -/
def readWholeFrom (least : Int) (value : Value) : Checked Int :=
  (readWhole value).andThen fun n => if n < least then .fail (.below least) else .ok n

/-! ## Truth values -/

/-- The words for true and false. -/
def truthOfWord? (word : List Char) : Option Bool :=
  let word := String.ofList (word.map Char.toLower)
  if ["1", "on", "t", "true", "y", "yes"].contains word then some true
  else if ["0", "off", "f", "false", "n", "no"].contains word then some false
  else none

/-- A word as a truth value. -/
def truthOfText (text : List Char) : Checked Bool :=
  match truthOfWord? text with
  | some truth => .ok truth
  | none => .fail .unreadableTruth

/-- A whole number as a truth value. -/
def truthOfWhole (n : Int) : Checked Bool :=
  if n = 1 then .ok true else if n = 0 then .ok false else .fail .unreadableTruth

/-- Whether an integer has sixty-four bits. -/
def isWord (n : Int) : Bool :=
  -Int.pow 2 63 ≤ n && n < Int.pow 2 63

/-- A truth value. -/
def readTruth : Value → Checked Bool
  | .bool truth => .ok truth
  | .int n => if isWord n then truthOfWhole n else .fail .notTruth
  | .float x =>
    match wholeOfDouble x with
    | .ok n => truthOfWhole n
    | .faulty _ => .fail .notTruth
  | .text content => truthOfText content.toList
  | .bytes octets =>
    match textOfOctets? octets with
    | some content => truthOfText content.toList
    | none => .fail .unreadableTruth
  | _ => .fail .notTruth

end Interview.Record
