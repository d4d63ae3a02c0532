import Interview.Base64
import Interview.Decimal.Numeral
import Interview.Text.Lower
import Interview.Value.Basic
import Interview.Yaml.Tag

/-!
# The values of scalars

A scalar is read as the type that its tag names. Whole numbers have binary, octal, hexadecimal and
sexagesimal forms, and fractions a sexagesimal one. What has the form of its type can still lack a
value, such as a day that no month has.
-/

namespace Interview.Yaml

open Interview.Text

/-- The number that whole parts in base sixty denote, the most significant first. -/
def sexagesimal (parts : List Int) : Int :=
  parts.foldl (fun value part => value * 60 + part) 0

/-- A text as a whole number in a base. -/
def wholeIn (base : Nat) (text : List Char) : Except Fault Int :=
  match Decimal.readWhole base text with
  | .ok number => .ok number
  | .error _ => .error (.scalar .unreadable)

/-- The whole number that a text denotes after its sign. -/
def readMagnitude (text : List Char) : Except Fault Int :=
  match text with
  | [] => .error (.scalar .absent)
  | ['0'] => .ok 0
  | '0' :: 'b' :: rest => wholeIn 2 rest
  | '0' :: 'x' :: rest => wholeIn 16 rest
  | '0' :: rest => wholeIn 8 ('0' :: rest)
  | text =>
    if text.contains ':' then do .ok (sexagesimal (← (colonParts text).mapM (wholeIn 10)))
    else wholeIn 10 text

/-- The whole number that a scalar denotes. -/
def readInt (content : List Char) : Except Fault Int := do
  let text := content.filter (· != '_')
  let (negative, rest) := Decimal.splitSign text
  if text.isEmpty then .error (.scalar .absent)
  else
    let magnitude ← readMagnitude rest
    .ok (if negative then -magnitude else magnitude)

/-- A text as a decimal fraction. -/
def fractionOf (text : List Char) : Except Fault Float :=
  match Decimal.readDecimal? text with
  | some number => .ok number
  | none => .error (.scalar .unreadable)

/-- The sum of fractional parts in base sixty, the least significant first, from the power `base`
of sixty on. Each product and each sum is rounded. -/
def sexagesimalSum : (base : Int) → (sum : Float) → List Float → Except Fault Float
  | _, sum, [] => .ok sum
  | base, sum, part :: parts =>
    match Decimal.ofInt? base with
    | some power => sexagesimalSum (base * 60) (sum + part * power) parts
    | none => .error (.scalar .tooLarge)

/-- The number that a scalar denotes. -/
def readFloat (content : List Char) : Except Fault Float := do
  let text := lower (content.filter (· != '_'))
  let (negative, rest) := Decimal.splitSign text
  let signed (number : Float) : Float := if negative then -number else number
  if text.isEmpty then .error (.scalar .absent)
  else if rest == ".inf".toList then .ok (signed Decimal.infinity)
  else if rest == ".nan".toList then .ok Decimal.notANumber
  else if rest.contains ':' then do
    let parts ← (colonParts rest).mapM fractionOf
    .ok (signed (← sexagesimalSum 1 (Decimal.ofMagnitude false 0) parts.reverse))
  else do .ok (signed (← fractionOf rest))

/-- The number that decimal digits denote. -/
def digitsValue (digits : List Char) : Nat :=
  Decimal.ofDigits 10 (digits.filterMap digit?)

/-- The day or moment that a text of its form denotes. Of the fraction of a second six digits
count. -/
def MomentText.value (parts : MomentText) : Except Fault Value :=
  let day : Calendar.Day :=
    ⟨digitsValue parts.year, digitsValue parts.month, digitsValue parts.day⟩
  match parts.time with
  | none => if day.exists then .ok (.date day) else .error (.scalar .unreadable)
  | some (hour, minute, second, fraction) =>
    let digits := fraction.take 6
    let instant : Calendar.Moment :=
      { day
        hour := digitsValue hour
        minute := digitsValue minute
        second := digitsValue second
        microsecond := digitsValue (digits ++ List.replicate (6 - digits.length) '0')
        offset := parts.zone.map fun (west, hours, minutes) =>
          let distance : Nat := digitsValue hours * 60 + digitsValue minutes
          if west then -(distance : Int) else distance }
    if instant.exists then .ok (.moment instant) else .error (.scalar .unreadable)

/-- The value of a scalar of the type that a tag names. Collections are not among them. -/
def Tag.read (tag : Tag) (content : List Char) : Except Fault Value :=
  match tag with
  | .null => .ok .null
  | .bool =>
    match truthWords.lookup (lower content) with
    | some truth => .ok (.bool truth)
    | none => .error (.scalar .unknownWord)
  | .int => (readInt content).map .int
  | .float => (readFloat content).map .float
  | .octets =>
    if content.all fun c => c.toNat < 128 then
      match Base64.decode? content with
      | some decoded => .ok (.bytes decoded)
      | none => .error (.malformed .badOctets)
    else .error (.malformed .badOctets)
  | .moment =>
    match MomentText.read? (dropLastFeed content) with
    | some parts => parts.value
    | none => .error (.scalar .shapeless)
  | .text => .ok (.text (String.ofList content))
  | .list | .mapping | .set | .pairs | .orderedPairs => .error (.malformed .wrongKind)
  | .merge | .default | .unknown => .error (.malformed .unknownTag)

end Interview.Yaml
